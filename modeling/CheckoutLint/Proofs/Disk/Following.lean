import CheckoutLint.Disk.Edit
import CheckoutLint.Proofs.Disk.Places

/-!
Where paths lead, told step by step and with the links on the way counted. The path of a directory
leads on like the directory itself. What stands stays where something is put in an empty spot, so
every path that led somewhere leads there still; only paths that led nowhere can come to lead
somewhere.

* `Disk.isPresent_iff`: whether a path leads to something.
* `Disk.Leads.unique`: a path leads to one place, through one number of links.
* `Disk.leads_reverse_append_iff`: following the path of a directory.
* `Disk.Leads.mono`, `Disk.extends_put`: following a path once there is more on the disk.
-/

namespace CheckoutLint

namespace Disk

variable {disk other : Disk} {links limit : Nat} {here place found : Place} {name : Bytes}
  {steps rest : List Bytes}

/-! ## Following paths -/

/-- Whether a directory stands at a place. -/
def HasDirectory (disk : Disk) (place : Place) : Prop :=
  ∃ entries, disk.at? place = some (.directory entries)

/-- A step that is looked up among the entries of a directory. -/
structure IsLookedUp (name : Bytes) : Prop where
  ne_self : name ≠ Path.self
  ne_parent : name ≠ Path.parent
  short : name.length ≤ maxName

/-- Steps lead from a directory to a place where something stands, through so many links. -/
inductive Leads (disk : Disk) : Nat → Place → List Bytes → Place → Prop where
  | here {here : Place} {node : Node} (stands : disk.at? here = some node) :
    Leads disk 0 here [] here
  | stay {links : Nat} {here found : Place} {rest : List Bytes} (around : disk.HasDirectory here)
    (onward : Leads disk links here rest found) : Leads disk links here (Path.self :: rest) found
  | leave {links : Nat} {here found : Place} {rest : List Bytes} (around : disk.HasDirectory here)
    (onward : Leads disk links here.tail rest found) :
    Leads disk links here (Path.parent :: rest) found
  | enter {links : Nat} {here found : Place} {name : Bytes} {rest : List Bytes} {node : Node}
    (lookedUp : IsLookedUp name) (stands : disk.at? (name :: here) = some node)
    (unlinked : ∀ target, node ≠ .link target)
    (onward : Leads disk links (name :: here) rest found) :
    Leads disk links here (name :: rest) found
  | follow {links : Nat} {here found : Place} {name target : Bytes} {rest : List Bytes}
    (lookedUp : IsLookedUp name) (stands : disk.at? (name :: here) = some (.link target))
    (onward : Leads disk links (if Path.isAbsolute target then [] else here)
      (Path.steps target ++ rest) found) :
    Leads disk (links + 1) here (name :: rest) found

/-- What has something in it is a directory. -/
theorem hasDirectory_of_at?_cons {node : Node} (stands : disk.at? (name :: here) = some node) :
    disk.HasDirectory here := by
  obtain ⟨around, above, held⟩ := Option.bind_eq_some_iff.1 stands
  cases around with
  | directory entries => exact ⟨entries, above⟩
  | file | link | pipe => cases held

/-- Around a directory there are directories only. -/
theorem HasDirectory.of_suffix {inner outer : Place} (directory : disk.HasDirectory inner)
    (within : outer <:+ inner) : disk.HasDirectory outer := by
  obtain ⟨front, rfl⟩ := within
  induction front with
  | nil => exact directory
  | cons name front ih =>
    obtain ⟨_, stands⟩ := directory
    exact ih (hasDirectory_of_at?_cons stands)

theorem IsLookedUp.of_isName (named : IsName name) : IsLookedUp name :=
  ⟨named.ne_self, named.ne_parent, named.short⟩

/-! ### One step -/

theorem resolve_self (around : disk.HasDirectory here) (last : LastStep) :
    disk.resolve last limit here (Path.self :: rest) = disk.resolve last limit here rest := by
  obtain ⟨entries, around⟩ := around
  rw [resolve_cons, around]
  rfl

/-- Two dots lead to the directory around. -/
theorem resolve_parent (around : disk.HasDirectory here) (last : LastStep) :
    disk.resolve last limit here (Path.parent :: rest) =
      disk.resolve last limit here.tail rest := by
  obtain ⟨entries, around⟩ := around
  rw [resolve_cons, around]
  rfl

/-- A name leads on to what stands under it, if that is no link. -/
theorem resolve_name (lookedUp : IsLookedUp name) {node : Node}
    (stands : disk.at? (name :: here) = some node) (unlinked : ∀ target, node ≠ .link target)
    (last : LastStep) :
    disk.resolve last limit here (name :: rest) = disk.resolve last limit (name :: here) rest := by
  obtain ⟨entries, around⟩ := hasDirectory_of_at?_cons stands
  rw [resolve_cons, around, stands]
  simp only [Option.map_some, Node.face, if_neg lookedUp.ne_self, if_neg lookedUp.ne_parent,
    if_neg (Nat.not_lt.2 lookedUp.short)]
  cases node with
  | link target => exact absurd rfl (unlinked target)
  | file | directory | pipe => rfl

/-- A link leads to its target, and is one link more. -/
theorem resolve_link (lookedUp : IsLookedUp name) {target : Bytes}
    (stands : disk.at? (name :: here) = some (.link target)) :
    disk.resolve .follow (limit + 1) here (name :: rest) =
      disk.resolve .follow limit (if Path.isAbsolute target then [] else here)
        (Path.steps target ++ rest) := by
  obtain ⟨entries, around⟩ := hasDirectory_of_at?_cons stands
  rw [resolve_cons, around, stands]
  simp only [Option.map_some, Node.face, if_neg lookedUp.ne_self, if_neg lookedUp.ne_parent,
    if_neg (Nat.not_lt.2 lookedUp.short)]
  exact if_neg fun both => LastStep.noConfusion both.2

/-- What the first of some steps can do, if they lead to some place. -/
theorem resolve_cons_eq_ok (success : disk.resolve .follow limit here (name :: rest) = .ok found) :
    (disk.HasDirectory here ∧ name = Path.self) ∨ (disk.HasDirectory here ∧ name = Path.parent) ∨
      (IsLookedUp name ∧ ∃ node, disk.at? (name :: here) = some node ∧
        ∀ target, node = .link target → ∃ fewer, limit = fewer + 1) := by
  rw [resolve_cons] at success
  cases above : disk.at? here with
  | none =>
    rw [above] at success
    cases success
  | some around =>
    cases around with
    | file | link | pipe =>
      rw [above] at success
      cases success
    | directory entries =>
      have directory : disk.HasDirectory here := ⟨entries, above⟩
      rw [above] at success
      simp only [Option.map_some, Node.face] at success
      by_cases self : name = Path.self
      · exact .inl ⟨directory, self⟩
      by_cases parent : name = Path.parent
      · exact .inr (.inl ⟨directory, parent⟩)
      by_cases long : maxName < name.length
      · simp [self, parent, long] at success
      refine .inr (.inr ⟨⟨self, parent, Nat.not_lt.1 long⟩, ?_⟩)
      cases stands : disk.at? (name :: here) with
      | none => simp [self, parent, long, stands] at success
      | some node =>
        refine ⟨node, rfl, ?_⟩
        rintro target rfl
        cases limit with
        | zero => simp [self, parent, long, stands, Node.face] at success
        | succ fewer => exact ⟨fewer, rfl⟩

/-! ### All steps -/

/-- A way with few enough links is followed to its end. -/
theorem Leads.resolve_eq (leads : disk.Leads links here steps found) (most : links ≤ limit) :
    disk.resolve .follow limit here steps = .ok found := by
  induction leads generalizing limit with
  | here => exact resolve_nil _ _ _ _
  | stay around _ ih => exact (resolve_self around _).trans (ih most)
  | leave around _ ih => exact (resolve_parent around _).trans (ih most)
  | enter lookedUp stands unlinked _ ih =>
    exact (resolve_name lookedUp stands unlinked _).trans (ih most)
  | follow lookedUp stands _ ih =>
    obtain ⟨fewer, rfl⟩ := Nat.exists_eq_add_of_lt most
    exact (resolve_link lookedUp stands).trans (ih (by omega))

theorem Leads.stands (leads : disk.Leads links here steps found) :
    ∃ node, disk.at? found = some node := by
  induction leads with
  | here stands => exact ⟨_, stands⟩
  | stay _ _ ih | leave _ _ ih | enter _ _ _ _ ih | follow _ _ _ ih => exact ih

/-- Whatever is found is found on a way with few enough links. -/
theorem leads_of_resolve {node : Node} (success : disk.resolve .follow limit here steps = .ok found)
    (stands : disk.at? found = some node) : ∃ links ≤ limit, disk.Leads links here steps found := by
  -- A link starts over with more steps, but with one link less.
  induction limit using Nat.strongRecOn generalizing here steps with
  | ind limit fewer =>
    induction steps generalizing here with
    | nil =>
      obtain rfl := Except.ok.inj ((resolve_nil _ _ _ _).symm.trans success)
      exact ⟨0, Nat.zero_le _, .here stands⟩
    | cons name rest ih =>
      obtain ⟨around, rfl⟩ | ⟨around, rfl⟩ | ⟨lookedUp, node, held, left⟩ :=
        resolve_cons_eq_ok success
      · obtain ⟨links, most, onward⟩ := ih ((resolve_self around _).symm.trans success)
        exact ⟨links, most, .stay around onward⟩
      · obtain ⟨links, most, onward⟩ := ih ((resolve_parent around _).symm.trans success)
        exact ⟨links, most, .leave around onward⟩
      · by_cases linked : ∃ target, node = .link target
        · obtain ⟨target, rfl⟩ := linked
          obtain ⟨limit, rfl⟩ := left target rfl
          obtain ⟨links, most, onward⟩ :=
            fewer limit (Nat.lt_succ_self limit) ((resolve_link lookedUp held).symm.trans success)
          exact ⟨links + 1, Nat.succ_le_succ most, .follow lookedUp held onward⟩
        · have unlinked := not_exists.1 linked
          obtain ⟨links, most, onward⟩ :=
            ih ((resolve_name lookedUp held unlinked _).symm.trans success)
          exact ⟨links, most, .enter lookedUp held unlinked onward⟩

/-- A path leads to something if its steps do, through at most forty links, and it is neither empty
nor too long and holds no NUL. -/
theorem isPresent_iff {cwd : Place} {path : Bytes} :
    disk.isPresent cwd path = true ↔
      (path ≠ [] ∧ 0 ∉ path ∧ path.length ≤ maxPath) ∧
        ∃ links ≤ maxLinks, ∃ found,
          disk.Leads links (if Path.isAbsolute path then [] else cwd) (Path.steps path) found := by
  rw [isPresent, find, locate]
  by_cases empty : path = []
  · simp [empty, Except.toBool]
  by_cases nul : 0 ∈ path
  · simp [empty, nul, Except.toBool]
  by_cases long : maxPath < path.length
  · simp [empty, nul, long, Nat.not_le.2 long, Except.toBool]
  simp only [if_neg empty, List.contains_eq_mem, decide_eq_true_eq, if_neg nul, if_neg long]
  constructor
  · intro present
    refine ⟨⟨empty, nul, Nat.not_lt.1 long⟩, ?_⟩
    cases success : disk.resolve .follow maxLinks (if Path.isAbsolute path then [] else cwd)
        (Path.steps path) with
    | error cause => simp [success, Except.toBool] at present
    | ok found =>
      cases stands : disk.at? found with
      | none => simp [success, stands, Except.toBool] at present
      | some node =>
        obtain ⟨links, most, leads⟩ := leads_of_resolve success stands
        exact ⟨links, most, found, leads⟩
  · rintro ⟨-, links, most, found, leads⟩
    obtain ⟨node, stands⟩ := leads.stands
    rw [leads.resolve_eq most]
    simp only [stands]
    rfl

/-- A path leads to one place, through one number of links. -/
theorem Leads.unique {links' : Nat} {found' : Place} (leads : disk.Leads links here steps found)
    (leads' : disk.Leads links' here steps found') : links = links' ∧ found = found' := by
  induction leads generalizing links' found' with
  | here =>
    cases leads' with
    | here => exact ⟨rfl, rfl⟩
  | stay _ _ ih =>
    cases leads' with
    | stay _ onward => exact ih onward
    | enter lookedUp => exact absurd rfl lookedUp.ne_self
    | follow lookedUp => exact absurd rfl lookedUp.ne_self
  | leave _ _ ih =>
    cases leads' with
    | leave _ onward => exact ih onward
    | enter lookedUp => exact absurd rfl lookedUp.ne_parent
    | follow lookedUp => exact absurd rfl lookedUp.ne_parent
  | enter lookedUp stands unlinked _ ih =>
    cases leads' with
    | stay => exact absurd rfl lookedUp.ne_self
    | leave => exact absurd rfl lookedUp.ne_parent
    | enter _ _ _ onward => exact ih onward
    | follow _ stands' => exact absurd (Option.some.inj (stands.symm.trans stands')) (unlinked _)
  | follow lookedUp stands _ ih =>
    cases leads' with
    | stay => exact absurd rfl lookedUp.ne_self
    | leave => exact absurd rfl lookedUp.ne_parent
    | enter _ stands' unlinked =>
      exact absurd (Option.some.inj (stands'.symm.trans stands)) (unlinked _)
    | follow _ stands' onward =>
      obtain rfl := Node.link.inj (Option.some.inj (stands.symm.trans stands'))
      obtain ⟨same, rfl⟩ := ih onward
      exact ⟨congrArg (· + 1) same, rfl⟩

/-- Two dots lead to the directory around. -/
theorem leads_parent_iff (around : disk.HasDirectory here) :
    disk.Leads links here (Path.parent :: steps) found ↔
      disk.Leads links here.tail steps found := by
  refine ⟨fun leads => ?_, .leave around⟩
  cases leads with
  | leave _ onward => exact onward
  | enter lookedUp => exact absurd rfl lookedUp.ne_parent
  | follow lookedUp => exact absurd rfl lookedUp.ne_parent

/-- The name of a directory leads into it. -/
theorem leads_name_iff (lookedUp : IsLookedUp name) (directory : disk.HasDirectory (name :: here)) :
    disk.Leads links here (name :: steps) found ↔ disk.Leads links (name :: here) steps found := by
  obtain ⟨entries, directory⟩ := directory
  refine ⟨fun leads => ?_, fun leads => .enter lookedUp directory (fun _ => Node.noConfusion) leads⟩
  cases leads with
  | stay => exact absurd rfl lookedUp.ne_self
  | leave => exact absurd rfl lookedUp.ne_parent
  | enter _ _ _ onward => exact onward
  | follow _ stands => exact Node.noConfusion (Option.some.inj (directory.symm.trans stands))

/-- The path of a directory leads on like the directory itself. -/
theorem leads_reverse_append_iff (named : ∀ name ∈ place, IsName name)
    (directory : disk.HasDirectory place) :
    disk.Leads links [] (place.reverse ++ steps) found ↔ disk.Leads links place steps found := by
  induction place generalizing steps with
  | nil => rfl
  | cons name around ih =>
    obtain ⟨first, others⟩ := List.forall_mem_cons.1 named
    obtain ⟨_, stands⟩ := directory
    rw [List.reverse_cons, List.append_assoc, ih others (hasDirectory_of_at?_cons stands)]
    exact leads_name_iff (.of_isName first) ⟨_, stands⟩

/-- A directory holds an entry of this name that exists: a file, a directory or a pipe, or a link
that leads to something, through no more links in all than given. -/
def Holds (disk : Disk) (limit : Nat) (place : Place) (name : Bytes) : Prop :=
  ∃ node, disk.at? (name :: place) = some node ∧ ∀ target, node = .link target →
    ∃ links < limit, ∃ found, disk.Leads links (if Path.isAbsolute target then [] else place)
      (Path.steps target) found

/-- The name of an entry leads somewhere if the entry exists. -/
theorem exists_leads_iff_holds (lookedUp : IsLookedUp name) :
    (∃ links ≤ limit, ∃ found, disk.Leads links here [name] found) ↔
      disk.Holds limit here name := by
  constructor
  · rintro ⟨links, most, found, leads⟩
    cases leads with
    | stay => exact absurd rfl lookedUp.ne_self
    | leave => exact absurd rfl lookedUp.ne_parent
    | enter _ stands unlinked => exact ⟨_, stands, fun target same => absurd same (unlinked target)⟩
    | follow _ stands onward =>
      refine ⟨_, stands, fun target same => ?_⟩
      obtain rfl := Node.link.inj same
      exact ⟨_, most, _, List.append_nil (Path.steps (_ : Bytes)) ▸ onward⟩
  · rintro ⟨node, stands, leads⟩
    by_cases linked : ∃ target, node = .link target
    · obtain ⟨target, rfl⟩ := linked
      obtain ⟨links, less, found, onward⟩ := leads target rfl
      rw [← List.append_nil (Path.steps target)] at onward
      exact ⟨links + 1, less, found, .follow lookedUp stands onward⟩
    · exact ⟨0, Nat.zero_le _, _, .enter lookedUp stands (not_exists.1 linked) (.here stands)⟩

/-! ## More on the disk -/

/-- What stands on a disk stands on the other as well, but for what directories hold. -/
def Extends (disk other : Disk) : Prop :=
  ∀ place node, disk.at? place = some node → (other.at? place).map Node.face = some node.face

/-- A disk with more on it keeps the directories. -/
theorem Extends.hasDirectory (more : disk.Extends other) (directory : disk.HasDirectory place) :
    other.HasDirectory place := by
  obtain ⟨entries, stands⟩ := directory
  obtain ⟨node, stands', same⟩ := Option.map_eq_some_iff.1 (more _ _ stands)
  cases node with
  | directory entries => exact ⟨entries, stands'⟩
  | file | link | pipe => cases same

/-- A disk with more on it keeps the links. -/
theorem Extends.at?_link (more : disk.Extends other) {target : Bytes}
    (stands : disk.at? place = some (.link target)) : other.at? place = some (.link target) := by
  obtain ⟨node, stands', same⟩ := Option.map_eq_some_iff.1 (more _ _ stands)
  cases node with
  | link => exact stands'.trans (congrArg some same)
  | file | directory | pipe => cases same

/-- Where something that is no link stands, a disk with more on it has no link either. -/
theorem Extends.at?_of_ne_link (more : disk.Extends other) {node : Node}
    (stands : disk.at? place = some node) (unlinked : ∀ target, node ≠ .link target) :
    ∃ node, other.at? place = some node ∧ ∀ target, node ≠ .link target := by
  obtain ⟨node', stands', same⟩ := Option.map_eq_some_iff.1 (more _ _ stands)
  refine ⟨node', stands', ?_⟩
  rintro target rfl
  cases node with
  | link => exact absurd same.symm (unlinked _)
  | file | directory | pipe => cases same

/-- A path that leads somewhere still does once there is more on the disk. -/
theorem Leads.mono (more : disk.Extends other) (leads : disk.Leads links here steps found) :
    other.Leads links here steps found := by
  induction leads with
  | here stands =>
    obtain ⟨node, stands', -⟩ := Option.map_eq_some_iff.1 (more _ _ stands)
    exact .here stands'
  | stay around _ ih => exact .stay (more.hasDirectory around) ih
  | leave around _ ih => exact .leave (more.hasDirectory around) ih
  | enter lookedUp stands unlinked _ ih =>
    obtain ⟨node, stands', unlinked'⟩ := more.at?_of_ne_link stands unlinked
    exact .enter lookedUp stands' unlinked' ih
  | follow lookedUp stands _ ih => exact .follow lookedUp (more.at?_link stands) ih

/-- What is found stays so on a disk with more on it. -/
theorem Holds.mono (more : disk.Extends other) (holds : disk.Holds limit place name) :
    other.Holds limit place name := by
  obtain ⟨node, stands, leads⟩ := holds
  by_cases linked : ∃ target, node = .link target
  · obtain ⟨target, rfl⟩ := linked
    obtain ⟨links, less, found, onward⟩ := leads target rfl
    refine ⟨_, more.at?_link stands, fun target same => ?_⟩
    obtain rfl := Node.link.inj same
    exact ⟨links, less, found, onward.mono more⟩
  · obtain ⟨node, stands', unlinked⟩ := more.at?_of_ne_link stands (not_exists.1 linked)
    exact ⟨node, stands', fun target same => absurd same (unlinked target)⟩

end Disk

/-! ### What is put on it -/

/-- What stands elsewhere once something has been put into a directory. -/
theorem Node.face_find?_put {node new : Node} {outer : List Bytes} {name : Bytes}
    {entries : List (Bytes × Node)} {place : Place}
    (directory : node.find? outer.reverse = some (.directory entries))
    (apart : ¬ name :: outer.reverse <:+ place) :
    ((node.put (outer ++ [name]) new).find? place).map face = (node.find? place).map face := by
  induction outer generalizing node place with
  | nil =>
    obtain rfl := Option.some.inj directory
    rw [List.nil_append, put, put]
    rcases List.eq_nil_or_concat place with rfl | ⟨place, key, rfl⟩
    · rfl
    rw [List.concat_eq_append] at apart ⊢
    have other : key ≠ name := by
      rintro rfl
      exact apart (List.suffix_append _ _)
    rw [find?_concat, find?_concat, entry?, entry?, Entries.lookup_set,
      if_neg (by simpa using other)]
  | cons first outer ih =>
    rw [List.reverse_cons, find?_concat] at directory
    obtain ⟨inner, held, below⟩ := Option.bind_eq_some_iff.1 directory
    cases node with
    | file | link | pipe => cases held
    | directory entries =>
      have held : entries.lookup first = some inner := held
      rw [List.cons_append, put, held, Option.getD_some]
      rcases List.eq_nil_or_concat place with rfl | ⟨place, key, rfl⟩
      · rfl
      rw [List.concat_eq_append] at apart ⊢
      rw [find?_concat, find?_concat, entry?, entry?, Entries.lookup_set]
      by_cases same : key = first
      · subst same
        rw [if_pos (beq_self_eq_true key), held]
        refine ih below fun within => apart ?_
        obtain ⟨front, rfl⟩ := within
        exact ⟨front, by simp⟩
      · rw [if_neg (by simpa using same)]

namespace Disk

variable {disk : Disk} {place above : Place} {name : Bytes}

/-- A change under a name shows nowhere else, from outside. -/
theorem face_at?_put (directory : disk.HasDirectory above) (apart : ¬ name :: above <:+ place)
    (new : Node) :
    ((disk.put (name :: above) new).at? place).map Node.face = (disk.at? place).map Node.face := by
  obtain ⟨entries, directory⟩ := directory
  rw [← List.reverse_reverse above] at directory apart
  rw [put, at?, List.reverse_cons]
  exact Node.face_find?_put directory apart

/-- Nothing stands where nothing stands around. -/
theorem at?_eq_none_of_suffix {inner outer : Place} (absent : disk.at? outer = none)
    (within : outer <:+ inner) : disk.at? inner = none := by
  obtain ⟨front, rfl⟩ := within
  rw [at?, Node.find?_append, show disk.root.find? outer = none from absent]
  rfl

/-- What stands stays where something is put where nothing stood. -/
theorem extends_put (directory : disk.HasDirectory above) (absent : disk.at? (name :: above) = none)
    (new : Node) : disk.Extends (disk.put (name :: above) new) := by
  intro place node stands
  have apart : ¬ name :: above <:+ place := fun within => by
    rw [at?_eq_none_of_suffix absent within] at stands
    cases stands
  rw [face_at?_put directory apart, stands]
  rfl

end Disk

end CheckoutLint
