import CheckoutLint.Disk.Edit
import CheckoutLint.Proofs.Disk.Reordering

/-!
Places and their absolute paths. Where every name is one that a file can have, the path of a place
tells the place, and can be put together and taken apart name by name.

* `Place.join_path`: the path of what a place holds.
* `Place.steps_path`, `Place.path_inj`: what the path of a place tells.
-/

namespace CheckoutLint

/-! ## Names -/

/-- A name that a file can have. -/
structure IsName (name : Bytes) : Prop where
  ne_nil : name ≠ []
  ne_self : name ≠ Path.self
  ne_parent : name ≠ Path.parent
  slashless : PathSign.slash ∉ name
  nulless : 0 ∉ name
  short : name.length ≤ Disk.maxName

/-- What a name is, spelled out. -/
theorem isName_iff (name : Bytes) :
    IsName name ↔ (name ≠ [] ∧ name ≠ Path.self ∧ name ≠ Path.parent) ∧
      (name.any fun b => b == PathSign.slash || b == 0) = false ∧ name.length ≤ Disk.maxName := by
  rw [List.any_eq_false]
  constructor
  · rintro ⟨some, self, parent, slashless, nulless, short⟩
    refine ⟨⟨some, self, parent⟩, fun b mem => ?_, short⟩
    have slash : b ≠ PathSign.slash := fun same => slashless (same ▸ mem)
    have nul : b ≠ 0 := fun same => nulless (same ▸ mem)
    simp [slash, nul]
  · rintro ⟨⟨some, self, parent⟩, plain, short⟩
    exact ⟨some, self, parent, fun mem => plain _ mem rfl, fun mem => plain _ mem rfl, short⟩

instance (name : Bytes) : Decidable (IsName name) := decidable_of_iff' _ (isName_iff name)

namespace Text

variable {σ : Type}

/-- A mark cuts off what stands in front of it. -/
theorem splitAt_append [DecidableEq σ] {mark : σ} {piece : List σ} (free : mark ∉ piece)
    (s : List σ) :
    splitAt mark (piece ++ mark :: s) = piece :: splitAt mark s := by
  induction piece with
  | nil => rw [List.nil_append, splitAt, if_pos rfl]
  | cons c piece ih =>
    obtain ⟨first, others⟩ := not_or.1 (List.mem_cons.not.1 free)
    rw [List.cons_append, splitAt, if_neg (Ne.symm first), ih others]

theorem splitAt_eq_singleton [DecidableEq σ] {mark : σ} {piece : List σ} (free : mark ∉ piece) :
    splitAt mark piece = [piece] := by
  induction piece with
  | nil => rfl
  | cons c piece ih =>
    obtain ⟨first, others⟩ := not_or.1 (List.mem_cons.not.1 free)
    rw [splitAt, if_neg (Ne.symm first), ih others]

/-- What is joined by a mark can be split at it. -/
theorem splitAt_joinWith [DecidableEq σ] {mark : σ} {pieces : List (List σ)}
    (some : pieces ≠ []) (free : ∀ piece ∈ pieces, mark ∉ piece) :
    splitAt mark (joinWith [mark] pieces) = pieces := by
  induction pieces with
  | nil => exact absurd rfl some
  | cons piece pieces ih =>
    obtain ⟨first, others⟩ := List.forall_mem_cons.1 free
    cases pieces with
    | nil => exact splitAt_eq_singleton first
    | cons next pieces =>
      rw [joinWith, List.append_assoc, List.singleton_append, splitAt_append first,
        ih (List.cons_ne_nil _ _) others]
      exact List.cons_ne_nil _ _

/-- A further piece stands behind the glue. -/
theorem joinWith_concat (glue : List σ) {pieces : List (List σ)} (some : pieces ≠ [])
    (piece : List σ) :
    joinWith glue (pieces ++ [piece]) = joinWith glue pieces ++ glue ++ piece := by
  induction pieces with
  | nil => exact absurd rfl some
  | cons first pieces ih =>
    cases pieces with
    | nil => rfl
    | cons next pieces =>
      have inner := ih (List.cons_ne_nil next pieces)
      simp only [List.cons_append] at inner
      simp only [List.cons_append, joinWith, inner, List.append_assoc]

end Text

/-- A name is a path of one step. -/
theorem Path.steps_of_isName {name : Bytes} (named : IsName name) : steps name = [name] := by
  have nonempty : name.isEmpty = false := List.isEmpty_eq_false_iff.2 named.ne_nil
  have names : names name = [name] := by
    rw [names, Text.splitAt_eq_singleton named.slashless]
    simp [nonempty]
  rw [steps, names]
  refine if_neg ?_
  rintro ⟨last, -⟩
  exact named.slashless (List.mem_of_getLast? last)

/-! ## The path of a place -/

namespace Place

variable {place other : Place} {name : Bytes}

theorem path_cons_cons (name around : Bytes) (place : Place) :
    path (name :: around :: place) = path (around :: place) ++ PathSign.slash :: name := by
  rw [path, List.reverse_cons, Text.joinWith_concat _ (by simp), path]
  simp

theorem getLast?_path_cons (named : IsName name) (place : Place) :
    (path (name :: place)).getLast? = name.getLast? := by
  have last (front : Bytes) : (front ++ PathSign.slash :: name).getLast? = name.getLast? := by
    rw [List.append_cons, List.getLast?_append_of_ne_nil _ named.ne_nil]
  cases place with
  | nil => exact last []
  | cons around place =>
    rw [path_cons_cons]
    exact last _

/-- The path of what a place holds is that of the place, joined with the name. -/
theorem join_path (named : ∀ name ∈ place, IsName name) (slashless : PathSign.slash ∉ name) :
    Path.join place.path name = path (name :: place) := by
  have relative := Path.isAbsolute_of_slashless slashless
  cases place with
  | nil => simp [Path.join, relative, path, Text.joinWith]
  | cons around place =>
    have around_named := named around List.mem_cons_self
    rw [path_cons_cons]
    cases last : around.getLast? with
    | none => exact absurd (List.getLast?_eq_none_iff.1 last) around_named.ne_nil
    | some c =>
      refine Path.join_eq_slash relative ((getLast?_path_cons around_named place).trans last) ?_
      rintro rfl
      exact around_named.slashless (List.mem_of_getLast? last)

/-- The names on the path of a place are its own. -/
theorem names_path (named : ∀ name ∈ place, IsName name) :
    Path.names place.path = place.reverse := by
  have nonempty : place.reverse.filter (fun name => !name.isEmpty) = place.reverse := by
    refine List.filter_eq_self.2 fun name mem => ?_
    have := (named name (List.mem_reverse.1 mem)).ne_nil
    simpa using this
  rw [Path.names, path, Text.splitAt, if_pos rfl]
  cases place with
  | nil => rfl
  | cons name place =>
    rw [Text.splitAt_joinWith (by simp)
      fun name mem => (named name (List.mem_reverse.1 mem)).slashless]
    exact nonempty

/-- The steps of the path of a place are its names, from the outside in. -/
theorem steps_path (named : ∀ name ∈ place, IsName name) :
    Path.steps place.path = place.reverse := by
  rw [Path.steps, names_path named]
  refine if_neg ?_
  rintro ⟨last, some⟩
  cases place with
  | nil => exact some rfl
  | cons name place =>
    have named := named name List.mem_cons_self
    rw [getLast?_path_cons named] at last
    exact named.slashless (List.mem_of_getLast? last)

/-- Places with one path are one place. -/
theorem path_inj (named : ∀ name ∈ place, IsName name) (named' : ∀ name ∈ other, IsName name)
    (same : place.path = other.path) : place = other := by
  have steps := steps_path named
  rw [same, steps_path named'] at steps
  exact List.reverse_injective steps.symm

theorem mem_path {b : UInt8} (mem : b ∈ place.path) :
    b = PathSign.slash ∨ ∃ name ∈ place, b ∈ name := by
  induction place with
  | nil => exact .inl (List.mem_singleton.1 mem)
  | cons name place ih =>
    cases place with
    | nil => exact (List.mem_cons.1 mem).imp_right fun mem => ⟨name, List.mem_cons_self, mem⟩
    | cons around place =>
      rw [path_cons_cons, List.mem_append, List.mem_cons] at mem
      rcases mem with mem | slash | mem
      · refine (ih mem).imp_right ?_
        rintro ⟨other, held, mem⟩
        exact ⟨other, List.mem_cons_of_mem _ held, mem⟩
      · exact .inl slash
      · exact .inr ⟨name, List.mem_cons_self, mem⟩

theorem nul_not_mem_path (named : ∀ name ∈ place, IsName name) : 0 ∉ place.path := by
  intro mem
  rcases mem_path mem with slash | ⟨name, held, mem⟩
  · exact absurd slash (by decide)
  · exact (named name held).nulless mem

end Place

end CheckoutLint
