import CheckoutLint.Disk.Resolve
import Mathlib.Data.List.Basic

/-!
Trees whose directories list their entries in another order. Where no directory lists a name twice,
the order cannot be told from what stands at each place; and following a path looks at nothing
else, so it leads to the same place.

* `Node.Proper`: trees whose directories list every name once, and no slash in it.
* `Node.Reordered.alike`: what stands at each place, whatever the order.
* `Disk.resolve_of_alike`, `Disk.locate_of_alike`: following a path, whatever the order.
-/

namespace CheckoutLint

namespace Node

/-! ## Places -/

/-- To find something deep inside is to find it inside what is around it. -/
theorem find?_append (node : Node) (inner outer : Place) :
    node.find? (inner ++ outer) = (node.find? outer).bind fun around => around.find? inner := by
  induction inner with
  | nil =>
    rw [List.nil_append]
    cases node.find? outer <;> rfl
  | cons name inner ih =>
    rw [List.cons_append, find?, ih, Option.bind_assoc]
    rfl

theorem find?_concat (node : Node) (place : Place) (name : Bytes) :
    node.find? (place ++ [name]) = (node.entry? name).bind fun inner => inner.find? place := by
  rw [find?_append]
  rfl

theorem find?_cons_of_no_entries {node : Node} (empty : ∀ name, node.entry? name = none)
    (name : Bytes) (place : Place) : node.find? (name :: place) = none := by
  induction place generalizing name with
  | nil => exact empty name
  | cons around place ih => rw [find?, ih, Option.bind_none]

/-! ## Proper trees -/

/-- A tree whose directories list every name once, and no slash in it. -/
inductive Proper : Node → Prop where
  | file (bytes : Bytes) (executable : Bool) : Proper (.file bytes executable)
  | link (target : Bytes) : Proper (.link target)
  | pipe (written : Bytes) : Proper (.pipe written)
  | directory {entries : List (Bytes × Node)} (distinct : (entries.map Prod.fst).Nodup)
    (slashless : ∀ name ∈ entries.map Prod.fst, PathSign.slash ∉ name)
    (below : ∀ entry ∈ entries, Proper entry.2) : Proper (.directory entries)

/-- Among distinct names, to find is to be there. -/
theorem lookup_eq_some_iff_mem {entries : List (Bytes × Node)}
    (distinct : (entries.map Prod.fst).Nodup) {name : Bytes} {node : Node} :
    entries.lookup name = some node ↔ (name, node) ∈ entries := by
  induction entries with
  | nil => simp
  | cons entry entries ih =>
    obtain ⟨key, value⟩ := entry
    obtain ⟨fresh, distinct⟩ := List.nodup_cons.1 distinct
    by_cases same : name = key
    · subst same
      have absent : (name, node) ∉ entries := fun mem =>
        fresh (List.mem_map.2 ⟨(name, node), mem, rfl⟩)
      simp [absent, eq_comm]
    · simp [List.lookup_cons, beq_eq_false_iff_ne.2 same, ih distinct, same]

/-- Where no name is listed twice, the order of the entries does not matter. -/
theorem lookup_eq_of_perm {entries others : List (Bytes × Node)}
    (distinct : (entries.map Prod.fst).Nodup) (perm : entries.Perm others) (name : Bytes) :
    entries.lookup name = others.lookup name := by
  have distinct' := (perm.map Prod.fst).nodup_iff.1 distinct
  refine Option.ext fun node => ?_
  rw [lookup_eq_some_iff_mem distinct, lookup_eq_some_iff_mem distinct', perm.mem_iff]

/-- What stands in a proper tree is a proper tree. -/
theorem Proper.find? {node inner : Node} {place : Place} (proper : node.Proper)
    (found : node.find? place = some inner) : inner.Proper := by
  induction place generalizing inner with
  | nil =>
    obtain rfl := Option.some.inj found
    exact proper
  | cons name place ih =>
    obtain ⟨around, above, held⟩ := Option.bind_eq_some_iff.1 found
    cases ih above with
    | directory distinct _ below => exact below _ ((lookup_eq_some_iff_mem distinct).1 held)
    | file | link | pipe => cases held

theorem Proper.slashless_of_find? {node inner : Node} {place : Place} (proper : node.Proper)
    (found : node.find? place = some inner) : ∀ name ∈ place, PathSign.slash ∉ name := by
  induction place generalizing inner with
  | nil => exact fun name mem => absurd mem List.not_mem_nil
  | cons name place ih =>
    obtain ⟨around, above, held⟩ := Option.bind_eq_some_iff.1 found
    refine List.forall_mem_cons.2 ⟨?_, ih above⟩
    cases proper.find? above with
    | directory distinct slashless _ =>
      have mem := (lookup_eq_some_iff_mem distinct).1 held
      exact slashless name (List.mem_map.2 ⟨(name, inner), mem, rfl⟩)
    | file | link | pipe => cases held

/-! ## Other orders -/

/-- The same tree, but for the order in which its directories list their entries. -/
inductive Reordered : Node → Node → Prop where
  | refl (node : Node) : Reordered node node
  | entries {entries others : List (Bytes × Node)} (perm : entries.Perm others) :
    Reordered (.directory entries) (.directory others)
  | inside {node other : Node} (before : List (Bytes × Node)) (name : Bytes)
    (after : List (Bytes × Node)) (below : Reordered node other) :
    Reordered (.directory (before ++ (name, node) :: after))
      (.directory (before ++ (name, other) :: after))
  | trans {first second third : Node} (left : Reordered first second)
    (right : Reordered second third) : Reordered first third

theorem Reordered.proper {node other : Node} (reordered : node.Reordered other)
    (proper : node.Proper) : other.Proper := by
  induction reordered with
  | refl => exact proper
  | entries perm =>
    cases proper with
    | directory distinct slashless below =>
      have names := perm.map Prod.fst
      exact .directory (names.nodup_iff.1 distinct)
        (fun name mem => slashless name (names.mem_iff.2 mem))
        (fun entry mem => below entry (perm.mem_iff.2 mem))
  | @inside node other before name after _ ih =>
    cases proper with
    | directory distinct slashless below =>
      have names : (before ++ (name, node) :: after).map Prod.fst =
          (before ++ (name, other) :: after).map Prod.fst := by
        simp
      rw [names] at distinct slashless
      refine .directory distinct slashless fun entry mem => ?_
      simp only [List.mem_append, List.mem_cons] at mem below
      rcases mem with mem | rfl | mem
      · exact below entry (.inl mem)
      · exact ih (below (name, node) (.inr (.inl rfl)))
      · exact below entry (.inr (.inr mem))
  | trans _ _ first second => exact second (first proper)

/-- A node without what a directory holds. -/
def face : Node → Node
  | .directory _ => .directory []
  | node => node

/-- Trees in which the same stands at every place. -/
def Alike (node other : Node) : Prop :=
  ∀ place, (node.find? place).map face = (other.find? place).map face

/-- Directories are alike if what they hold under each name is. -/
theorem alike_of_lookup {entries others : List (Bytes × Node)}
    (same : ∀ name place, ((entries.lookup name).bind fun node => node.find? place).map face =
      ((others.lookup name).bind fun node => node.find? place).map face) :
    (directory entries).Alike (directory others) := by
  intro place
  rcases List.eq_nil_or_concat place with rfl | ⟨place, name, rfl⟩
  · rfl
  · rw [List.concat_eq_append, find?_concat, find?_concat]
    exact same name place

/-- Trees that differ in order hold the same under every name. -/
theorem Reordered.alike {node other : Node} (reordered : node.Reordered other)
    (proper : node.Proper) : node.Alike other := by
  induction reordered with
  | refl => exact fun _ => rfl
  | entries perm =>
    cases proper with
    | directory distinct =>
      exact alike_of_lookup fun name place => by rw [lookup_eq_of_perm distinct perm]
  | @inside node other before name after _ ih =>
    cases proper with
    | directory _ _ below =>
      have alike := ih (below (name, node) (by simp))
      refine alike_of_lookup fun key place => ?_
      rw [List.lookup_append, List.lookup_append, List.lookup_cons, List.lookup_cons]
      -- The names tell which entry is found; only what is found can differ.
      cases before.lookup key with
      | some found => rfl
      | none =>
        cases key == name with
        | false => rfl
        | true => exact alike place
  | trans left _ first second =>
    exact fun place => (first proper place).trans (second (left.proper proper) place)

/-- Inside trees that hold the same, the same is found. -/
theorem Alike.find? {node other inner inner' : Node} {place : Place} (alike : node.Alike other)
    (found : node.find? place = some inner) (found' : other.find? place = some inner') :
    inner.Alike inner' := by
  intro below
  have same := alike (below ++ place)
  rwa [find?_append, find?_append, found, found'] at same

end Node

/-! ## Following paths -/

namespace Disk

variable {disk other : Disk}

/-- A step of a path, by what stands at the place around it and at the place itself. -/
theorem resolve_cons (disk : Disk) (last : LastStep) (links : Nat) (here : Place) (name : Bytes)
    (rest : List Bytes) :
    disk.resolve last links here (name :: rest) =
      match (disk.at? here).map Node.face with
      | none => .error .missing
      | some (.directory _) =>
        if name = Path.self then disk.resolve last links here rest
        else if name = Path.parent then disk.resolve last links here.tail rest
        else if maxName < name.length then .error .nameTooLong
        else
          match (disk.at? (name :: here)).map Node.face with
          | none => if rest = [] ∧ last = .create then .ok (name :: here) else .error .missing
          | some (.link target) =>
            if rest = [] ∧ last = .keep then .ok (name :: here)
            else
              match links with
              | 0 => .error .tooManyLinks
              | links + 1 =>
                disk.resolve last links (if Path.isAbsolute target then [] else here)
                  (Path.steps target ++ rest)
          | some _ => disk.resolve last links (name :: here) rest
      | some _ => .error .notDirectory := by
  rw [resolve]
  cases around : disk.at? here with
  | none => rfl
  | some node =>
    cases node with
    | file | link | pipe => rfl
    | directory entries =>
      have inner : disk.at? (name :: here) = entries.lookup name := by
        have around : disk.root.find? here = some (.directory entries) := around
        rw [at?, Node.find?, around]
        rfl
      simp only [inner, Option.map_some, Node.face]
      cases entries.lookup name with
      | none => rfl
      | some node => cases node <;> rfl

/-- Paths lead to the same places whatever the order of the entries. -/
theorem resolve_of_alike (alike : disk.root.Alike other.root) (last : LastStep) (links : Nat)
    (here : Place) (steps : List Bytes) :
    disk.resolve last links here steps = other.resolve last links here steps := by
  have same (place : Place) : (disk.at? place).map Node.face = (other.at? place).map Node.face :=
    alike place
  -- A link starts over with more steps, but with one link less.
  induction links using Nat.strongRecOn generalizing here steps with
  | ind links fewer =>
    induction steps generalizing here with
    | nil => rw [resolve_nil, resolve_nil]
    | cons name rest ih =>
      simp only [resolve_cons, same, ih]
      cases links with
      | zero => rfl
      | succ links => simp only [fewer links (Nat.lt_succ_self links)]

theorem locate_of_alike (alike : disk.root.Alike other.root) (last : LastStep) (cwd : Place)
    (path : Bytes) : disk.locate last cwd path = other.locate last cwd path := by
  simp only [locate, resolve_of_alike alike]

end Disk

end CheckoutLint
