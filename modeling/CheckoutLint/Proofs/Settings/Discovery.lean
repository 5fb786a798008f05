import CheckoutLint.Proofs.Disk.Following
import CheckoutLint.Settings

/-!
The checkout that a run is for, found by looking for `.git` from the working directory outwards. The
innermost directory that holds it is the root, and what is added further out changes nothing, unless
it gives a link that led nowhere something to lead to.

* `Settings.enclosing_eq_some_iff`, `Settings.enclosing_eq_none_iff`: what the search finds.
* `Settings.isRoot_iff`: which directories count as roots.
* `Settings.discover_eq_some_iff`, `Settings.discover_eq_none_iff`: which settings are found.
* `Settings.isNearest_put_iff`: the nearest root once something has been added above it.
* `Settings.holds_laddered_iff`, `Settings.discover_nested`: the limits of the system.
-/

namespace CheckoutLint.Settings

variable {disk other : Disk} {cwd place root above : Place}

/-! ## The search -/

/-- There is no place around with a property just if it holds at none of them. -/
theorem enclosing_eq_none_iff {holds : Place → Bool} :
    enclosing holds cwd = none ↔ ∀ place, place <:+ cwd → holds place = false := by
  induction cwd with
  | nil =>
    rw [enclosing]
    simp only [List.suffix_nil, forall_eq]
    cases holds [] <;> simp
  | cons name around ih =>
    rw [enclosing]
    simp only [List.suffix_cons_iff, forall_eq_or_imp, ← ih]
    cases holds (name :: around) <;> simp

theorem suffix_of_enclosing {holds : Place → Bool} (found : enclosing holds cwd = some root)
    (within : place <:+ cwd) (held : holds place = true) : place <:+ root := by
  induction cwd with
  | nil =>
    obtain rfl := List.suffix_nil.1 within
    exact List.nil_suffix
  | cons name around ih =>
    rw [enclosing] at found
    split at found
    · obtain rfl := Option.some.inj found
      exact within
    · rcases List.suffix_cons_iff.1 within with rfl | within
      · contradiction
      · exact ih found within

/-- The place that is found is the nearest one with the property. -/
theorem enclosing_eq_some_iff {holds : Place → Bool} :
    enclosing holds cwd = some root ↔
      root <:+ cwd ∧ holds root = true ∧
        ∀ place, place <:+ cwd → holds place = true → place <:+ root := by
  constructor
  · intro found
    obtain ⟨held, within⟩ := enclosing_eq_some found
    exact ⟨within, held, fun place => suffix_of_enclosing found⟩
  · rintro ⟨within, held, deepest⟩
    cases found : enclosing holds cwd with
    | none => exact absurd held (by simp [enclosing_eq_none_iff.1 found root within])
    | some other =>
      obtain ⟨held', within'⟩ := enclosing_eq_some found
      have inner := suffix_of_enclosing found within held
      rw [inner.eq_of_length_le (deepest other within' held').length_le]

/-! ## Roots -/

/-- A directory with named directories around it, as a run has for its working directory. -/
structure IsWorkingDirectory (disk : Disk) (cwd : Place) : Prop where
  named : ∀ name ∈ cwd, IsName name
  directory : disk.HasDirectory cwd

/-- A directory holds an entry `.git` that exists, and whose path is not too long to be read. -/
structure HoldsGit (disk : Disk) (place : Place) : Prop where
  short : (Place.path (gitName :: place)).length ≤ Disk.maxPath
  held : disk.Holds Disk.maxLinks place gitName

/-- The deepest of a working directory and the directories around it that hold `.git`. -/
structure IsNearest (disk : Disk) (cwd root : Place) : Prop where
  around : root <:+ cwd
  holds : HoldsGit disk root
  deepest : ∀ place, place <:+ cwd → HoldsGit disk place → place <:+ root

theorem IsWorkingDirectory.of_suffix (working : IsWorkingDirectory disk cwd)
    (within : place <:+ cwd) : IsWorkingDirectory disk place where
  named name mem := working.named name (within.subset mem)
  directory := working.directory.of_suffix within

theorem isName_git : IsName gitName := by decide

/-- A working directory is taken for a root just if something is found there under the name. -/
theorem isRoot_iff (working : IsWorkingDirectory disk place) :
    isRoot disk place = true ↔ HoldsGit disk place := by
  have named : ∀ name ∈ gitName :: place, IsName name :=
    List.forall_mem_cons.2 ⟨isName_git, working.named⟩
  have path : 0 ∉ Place.path (gitName :: place) := Place.nul_not_mem_path named
  rw [isRoot, Place.join_path working.named isName_git.slashless, Disk.isPresent_iff,
    Place.steps_path named, List.reverse_cons, ite_self]
  simp only [Disk.leads_reverse_append_iff working.named working.directory,
    Disk.exists_leads_iff_holds (.of_isName isName_git)]
  exact ⟨fun ⟨⟨_, _, short⟩, held⟩ => ⟨short, held⟩,
    fun ⟨short, held⟩ => ⟨⟨List.cons_ne_nil _ _, path, short⟩, held⟩⟩

/-- The nearest root is the one that the search upwards finds. -/
theorem isNearest_iff (working : IsWorkingDirectory disk cwd) :
    IsNearest disk cwd root ↔ enclosing (isRoot disk) cwd = some root := by
  rw [enclosing_eq_some_iff]
  constructor
  · rintro ⟨around, holds, deepest⟩
    refine ⟨around, (isRoot_iff (working.of_suffix around)).2 holds, fun place within held => ?_⟩
    exact deepest place within ((isRoot_iff (working.of_suffix within)).1 held)
  · rintro ⟨around, holds, deepest⟩
    refine ⟨around, (isRoot_iff (working.of_suffix around)).1 holds, fun place within held => ?_⟩
    exact deepest place within ((isRoot_iff (working.of_suffix within)).2 held)

/-- Discovery succeeds just with the nearest root. -/
theorem discover_eq_some_iff (working : IsWorkingDirectory disk cwd) (environment : Environment)
    (settings : Settings) :
    discover disk environment cwd = some settings ↔
      ∃ root, IsNearest disk cwd root ∧ settings = ofRoot environment root.path := by
  simp only [discover, Option.map_eq_some_iff, ← isNearest_iff working, @eq_comm _ settings]

/-- Discovery fails just if no place around holds the name. -/
theorem discover_eq_none_iff (working : IsWorkingDirectory disk cwd) (environment : Environment) :
    discover disk environment cwd = none ↔ ∀ place, place <:+ cwd → ¬ HoldsGit disk place := by
  rw [discover, Option.map_eq_none_iff, enclosing_eq_none_iff]
  refine forall₂_congr fun place within => ?_
  rw [← isRoot_iff (working.of_suffix within), Bool.not_eq_true]

/-- Which directory is the root tells which settings are found, and the other way round. -/
theorem discover_eq_ofRoot_iff (working : IsWorkingDirectory disk cwd) (around : root <:+ cwd)
    (environment : Environment) :
    discover disk environment cwd = some (ofRoot environment root.path) ↔
      IsNearest disk cwd root := by
  rw [discover_eq_some_iff working]
  constructor
  · rintro ⟨other, nearest, same⟩
    have named := (working.of_suffix around).named
    have named' := (working.of_suffix nearest.around).named
    rwa [Place.path_inj named named' (congrArg Settings.root same)]
  · exact fun nearest => ⟨root, nearest, rfl⟩

/-! ## Additions -/

theorem HoldsGit.mono (more : disk.Extends other) (holds : HoldsGit disk place) :
    HoldsGit other place :=
  ⟨holds.short, holds.held.mono more⟩

theorem IsWorkingDirectory.mono (more : disk.Extends other)
    (working : IsWorkingDirectory disk cwd) : IsWorkingDirectory other cwd :=
  ⟨working.named, more.hasDirectory working.directory⟩

/-- A root is still the nearest once there is more on the disk, unless a directory below it has
become one. -/
theorem isNearest_iff_of_extends (more : disk.Extends other) (nearest : IsNearest disk cwd root) :
    IsNearest other cwd root ↔
      ∀ place, place <:+ cwd → root <:+ place → place ≠ root → ¬ HoldsGit other place := by
  constructor
  · intro nearest' place within below apart holds
    have inner := nearest'.deepest place within holds
    exact apart (inner.eq_of_length_le below.length_le)
  · intro none
    refine ⟨nearest.around, nearest.holds.mono more, fun place within holds => ?_⟩
    rcases List.suffix_or_suffix_of_suffix within nearest.around with inside | below
    · exact inside
    · by_cases same : place = root
      · exact same ▸ List.suffix_rfl
      · exact absurd holds (none place within below same)

/-- Only a link can come to lead to something by what is put elsewhere. -/
theorem holdsGit_of_put {new : Node} (directory : disk.HasDirectory above)
    (apart : ¬ gitName :: above <:+ gitName :: place)
    (unlinked : ∀ target, disk.at? (gitName :: place) ≠ some (.link target))
    (holds : HoldsGit (disk.put (gitName :: above) new) place) : HoldsGit disk place := by
  obtain ⟨short, node, stands, -⟩ := holds
  have same := Disk.face_at?_put directory apart new
  rw [stands] at same
  obtain ⟨node', stands', -⟩ := Option.map_eq_some_iff.1 same.symm
  refine ⟨short, node', stands', ?_⟩
  rintro target rfl
  exact absurd stands' (unlinked target)

/-- With `.git` put into a directory around the root, the root is another only if a link below it
has come to lead to something. -/
theorem isNearest_put_iff (working : IsWorkingDirectory disk cwd)
    (nearest : IsNearest disk cwd root) (around : above <:+ root) (apart : above ≠ root)
    (absent : disk.at? (gitName :: above) = none) (new : Node) :
    IsNearest (disk.put (gitName :: above) new) cwd root ↔
      ∀ place target, place <:+ cwd → root <:+ place → place ≠ root →
        disk.at? (gitName :: place) = some (.link target) →
          ¬ HoldsGit (disk.put (gitName :: above) new) place := by
  have directory := working.directory.of_suffix (around.trans nearest.around)
  rw [isNearest_iff_of_extends (Disk.extends_put directory absent new) nearest]
  constructor
  · exact fun none place target within below other _ => none place within below other
  · intro none place within below other holds
    by_cases linked : ∃ target, disk.at? (gitName :: place) = some (.link target)
    · obtain ⟨target, stands⟩ := linked
      exact none place target within below other stands holds
    -- What is not a link was there before, so the directory would have been the root.
    have elsewhere : ¬ gitName :: above <:+ gitName :: place := by
      intro inside
      rcases List.suffix_cons_iff.1 inside with same | inside
      · obtain rfl := (List.cons.inj same).2
        exact apart (around.eq_of_length_le below.length_le)
      · obtain ⟨entries, stands⟩ := working.directory.of_suffix within
        rw [Disk.at?_eq_none_of_suffix absent inside] at stands
        cases stands
    have before := holdsGit_of_put directory elsewhere (not_exists.1 linked) holds
    exact other ((nearest.deepest place within before).eq_of_length_le below.length_le)

/-- The place `/r/f`. -/
def house : Place := [Text.utf8 "f".toList, Text.utf8 "r".toList]

/-- The place `/r/f/c`. -/
def yard : Place := Text.utf8 "c".toList :: house

/-- A disk with a checkout at `/r/f` and a directory `c` in it, which holds these entries. -/
def checkout (entries : List (Bytes × Node)) : Disk :=
  ⟨.directory [(Text.utf8 "r".toList, .directory [(Text.utf8 "f".toList,
    .directory [(gitName, .directory []), (Text.utf8 "c".toList, .directory entries)])])]⟩

theorem isWorkingDirectory_checkout (entries : List (Bytes × Node)) :
    IsWorkingDirectory (checkout entries) yard :=
  ⟨by decide, entries, rfl⟩

/-- The checkout is the nearest one if its directory is none itself. -/
theorem isNearest_checkout {entries : List (Bytes × Node)}
    (none : ¬ HoldsGit (checkout entries) yard) :
    IsNearest (checkout entries) yard
      house where
  around := List.suffix_cons _ _
  holds := ⟨by decide, .directory [], rfl, fun _ => Node.noConfusion⟩
  deepest place within holds := by
    rcases List.suffix_cons_iff.1 within with rfl | inside
    · exact absurd holds none
    · exact inside

/-- The name of a link in a row of links. -/
def rung (n : Nat) : Bytes := List.replicate (n + 1) 0x6C

/-- A file, or a link to the one before it in the row. -/
def rungNode : Nat → Node
  | 0 => .file [] false
  | n + 1 => .link (rung n)

/-- A file behind a row of links. -/
def rungs : Nat → List (Bytes × Node)
  | 0 => [(rung 0, rungNode 0)]
  | n + 1 => (rung (n + 1), rungNode (n + 1)) :: rungs n

/-- A disk whose `.git` is a link to the last of a row of links. -/
def laddered (n : Nat) : Disk := ⟨.directory ((gitName, .link (rung n)) :: rungs n)⟩

/-- Every rung of the ladder leads to the one below. -/
theorem lookup_rungs {k n : Nat} (most : k ≤ n) :
    (rungs n).lookup (rung k) = some (rungNode k) := by
  induction n with
  | zero =>
    obtain rfl := Nat.le_zero.1 most
    exact List.lookup_cons_self
  | succ n ih =>
    rw [rungs]
    rcases Nat.le_succ_iff.1 most with less | rfl
    · have other : rung k ≠ rung (n + 1) := fun same => by
        have := congrArg List.length same
        simp only [rung, List.length_replicate] at this
        omega
      rw [List.lookup_cons, beq_eq_false_iff_ne.2 other]
      exact ih less
    · exact List.lookup_cons_self

theorem at?_laddered {k n : Nat} (most : k ≤ n) :
    (laddered n).at? [rung k] = some (rungNode k) := by
  have other : rung k ≠ gitName := fun same => by
    have first : some (0x6C : UInt8) = gitName.head? := congrArg List.head? same
    exact absurd first (by decide)
  have found := lookup_rungs most
  rw [Disk.at?, Node.find?, Node.find?, laddered, Option.bind_some, Node.entry?, List.lookup_cons,
    beq_eq_false_iff_ne.2 other]
  exact found

theorem isName_rung {k : Nat} (most : k ≤ 40) : IsName (rung k) := by
  have all : ∀ k < 41, IsName (rung k) := by decide +kernel
  exact all k (Nat.lt_succ_of_le most)

/-- Each link of the row adds one to those on the way. -/
theorem leads_rung {k n : Nat} (most : k ≤ n) (limit : n ≤ 40) :
    (laddered n).Leads k [] [rung k] [rung 0] := by
  have lookedUp : Disk.IsLookedUp (rung k) := .of_isName (isName_rung (Nat.le_trans most limit))
  induction k with
  | zero =>
    have stands := at?_laddered most
    exact .enter lookedUp stands (fun _ => Node.noConfusion) (.here stands)
  | succ k ih =>
    have less := Nat.le_of_succ_le most
    have named := isName_rung (Nat.le_trans less limit)
    refine .follow lookedUp (at?_laddered most) ?_
    rw [ite_self, Path.steps_of_isName named, List.append_nil]
    exact ih less (.of_isName named)

/-- The link `.git` leads to the file behind the row if all of the row may be followed as well. -/
theorem holds_laddered_iff {n limit : Nat} (most : n ≤ 40) :
    (laddered n).Holds limit [] gitName ↔ n < limit := by
  have steps := Path.steps_of_isName (isName_rung most)
  have leads := leads_rung (Nat.le_refl n) most
  constructor
  · rintro ⟨node, stands, through⟩
    obtain rfl := Option.some.inj stands
    obtain ⟨links, less, found, onward⟩ := through _ rfl
    rw [ite_self, steps] at onward
    exact (leads.unique onward).1 ▸ less
  · refine fun less => ⟨.link (rung n), rfl, fun target same => ?_⟩
    obtain rfl := Node.link.inj same
    rw [ite_self, steps]
    exact ⟨n, less, _, leads⟩

theorem isWorkingDirectory_laddered (n : Nat) : IsWorkingDirectory (laddered n) [] :=
  ⟨List.forall_mem_nil _, _, rfl⟩

/-- A name at the end of forty-one links is not found. -/
theorem discover_laddered : discover (laddered 40) [] [] = none := by
  refine (discover_eq_none_iff (isWorkingDirectory_laddered 40) []).2 fun place within holds => ?_
  obtain rfl := List.suffix_nil.1 within
  exact Nat.lt_irrefl 40 ((holds_laddered_iff (Nat.le_refl 40)).1 holds.held)

/-- Directories of one name in a row, each the only entry of the one around it; the last holds
`.git`. -/
def nested (name : Bytes) : Nat → Node
  | 0 => .directory [(gitName, .directory [])]
  | n + 1 => .directory [(name, nested name n)]

/-- Some way into nested directories there are fewer of them left. -/
theorem find?_nested (name : Bytes) (k n : Nat) :
    (nested name (n + k)).find? (List.replicate k name) = some (nested name n) := by
  induction k with
  | zero => rfl
  | succ k ih =>
    have inner : Node.entry? (nested name (n + k + 1)) name = some (nested name (n + k)) :=
      List.lookup_cons_self
    rw [List.replicate_succ', Node.find?_concat, ← Nat.add_assoc, inner]
    exact ih

theorem find?_nested_self (name : Bytes) (n : Nat) :
    (nested name n).find? (List.replicate n name) =
      some (.directory [(gitName, .directory [])]) := by
  have stands := find?_nested name n 0
  rwa [Nat.zero_add] at stands

theorem isWorkingDirectory_nested {name : Bytes} (named : IsName name) (n : Nat) :
    IsWorkingDirectory ⟨nested name n⟩ (List.replicate n name) where
  named _ mem := List.eq_of_mem_replicate mem ▸ named
  directory := ⟨_, find?_nested_self name n⟩

/-- The innermost of nested directories holds the name, however deep it is. -/
theorem holds_nested (name : Bytes) (n limit : Nat) :
    Disk.Holds ⟨nested name n⟩ limit (List.replicate n name) gitName := by
  refine ⟨.directory [], ?_, fun _ => Node.noConfusion⟩
  rw [Disk.at?, Node.find?, find?_nested_self]
  rfl

/-- What the directories hold but for the last is the next of them. -/
theorem not_holdsGit_nested {name : Bytes} (other : gitName ≠ name) {k n : Nat}
    (less : k < n) : ¬ HoldsGit ⟨nested name n⟩ (List.replicate k name) := by
  rintro ⟨-, node, stands, -⟩
  obtain ⟨m, rfl⟩ := Nat.exists_eq_add_of_lt less
  have around := find?_nested name k (m + 1)
  rw [show m + 1 + k = k + m + 1 by omega] at around
  have empty : Node.entry? (nested name (m + 1)) gitName = none := by
    rw [nested, Node.entry?, List.lookup_cons, beq_eq_false_iff_ne.2 other]
    rfl
  rw [Disk.at?, Node.find?, around, Option.bind_some, empty] at stands
  cases stands

/-- A name behind a path that is too long is not found. -/
theorem discover_nested {name : Bytes} (named : IsName name) (other : gitName ≠ name) {n : Nat}
    (long : Disk.maxPath < (Place.path (gitName :: List.replicate n name)).length) :
    discover ⟨nested name n⟩ [] (List.replicate n name) = none := by
  refine (discover_eq_none_iff (isWorkingDirectory_nested named n) []).2 fun place within => ?_
  obtain ⟨most, same⟩ := List.suffix_replicate_iff.1 within
  rw [same]
  rcases Nat.lt_or_eq_of_le most with less | last
  · exact not_holdsGit_nested other less
  · rw [last]
    exact fun holds => Nat.not_le.2 long holds.short

/-- The longest name that a file can have, in one letter. -/
def longName : Bytes := List.replicate Disk.maxName 0x64

theorem isName_longName : IsName longName := by decide +kernel

/-- The way from `/r/f/c` to `/r/.git`. -/
def tether : Bytes := Text.utf8 "../../.git".toList

/-- A checkout at `/r/f`, and a link in its directory `c` to where `/r/.git` would be. -/
def tethered : Disk := checkout [(gitName, .link tether)]

theorem steps_tether :
    Path.steps tether = [Path.parent, Path.parent, gitName] := by
  decide

/-- A link to what is not there is not found. -/
theorem not_holdsGit_tethered : ¬ HoldsGit tethered yard := by
  rintro ⟨-, node, stands, through⟩
  obtain rfl := Option.some.inj stands
  obtain ⟨links, -, found, onward⟩ := through _ rfl
  rw [steps_tether] at onward
  have outer := (Disk.leads_parent_iff ⟨_, rfl⟩).1 ((Disk.leads_parent_iff ⟨_, rfl⟩).1 onward)
  cases outer with
  | enter _ stands => cases stands
  | follow _ stands => cases stands

/-- The root further up is found in its place. -/
theorem discover_tethered :
    discover tethered [] yard =
      some (ofRoot [] (Text.utf8 "/r/f".toList)) := by
  have working := isWorkingDirectory_checkout [(gitName, .link tether)]
  refine (discover_eq_ofRoot_iff working (List.suffix_cons _ _) []).2 ?_
  exact isNearest_checkout not_holdsGit_tethered

/-- With `/r/.git` added, the link leads to it, and its directory is the nearest checkout. -/
theorem discover_tethered_put :
    discover (tethered.put [gitName, Text.utf8 "r".toList] (.directory [])) []
      yard = some (ofRoot [] (Text.utf8 "/r/f/c".toList)) := by
  have working : IsWorkingDirectory (tethered.put [gitName, Text.utf8 "r".toList] (.directory []))
      yard :=
    ⟨(isWorkingDirectory_checkout []).named, _, rfl⟩
  have holds : HoldsGit (tethered.put [gitName, Text.utf8 "r".toList] (.directory []))
      yard := by
    refine ⟨by decide, .link tether, rfl, fun target same => ?_⟩
    obtain rfl := Node.link.inj same
    rw [steps_tether]
    refine ⟨0, by decide, [gitName, Text.utf8 "r".toList], .leave ⟨_, rfl⟩ (.leave ⟨_, rfl⟩ ?_)⟩
    exact .enter (.of_isName isName_git) rfl (fun _ => Node.noConfusion) (.here rfl)
  refine (discover_eq_ofRoot_iff working List.suffix_rfl []).2 ?_
  exact ⟨List.suffix_rfl, holds, fun place within _ => within⟩

end CheckoutLint.Settings
