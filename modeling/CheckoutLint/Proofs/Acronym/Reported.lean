import CheckoutLint.Inspection
import CheckoutLint.Proofs.Acronym.Runs
import Mathlib

/-!
The acronyms that the scan reports. It consumes the blank behind an acronym, and so misses one that
stands right behind, with no other blank between: of the runs of a line, an acronym is reported
unless the run just before it has been, and one blank stands between them.

* `cut?_run`: an acronym is cut off the front of a text exactly if it is the first run.
* `inLine_eq_reported`: the acronyms that the scan finds in a line.
* `check_acronyms_complete_iff`: when the scan misses no acronym of any file.
* `check_neighbours`: two acronyms of which one is missed.
-/

namespace CheckoutLint

namespace Acronym

/-! ## The dictionary -/

/-- The acronym that is written like this. -/
def ofWritten? (word : Text) : Option Acronym := all.find? fun acronym => acronym.written == word

/-- The acronym that a run is, if it is one. -/
def Run.acronym? (run : Run) : Option Acronym := ofWritten? run.word

/-- The words of the table are runs: none is empty or holds a blank. -/
theorem isSolid_written : ∀ acronym ∈ all, IsSolid acronym.written := by decide

theorem written_of_ofWritten? {word : Text} {acronym : Acronym}
    (known : ofWritten? word = some acronym) : acronym ∈ all ∧ acronym.written = word :=
  ⟨List.mem_of_find?_eq_some known, by simpa using List.find?_some known⟩

/-! ## Cutting runs -/

section Cut

variable {c : Char} {s word rest : Text}

/-- Behind a word comes the end of its run; a blank there is used up. -/
theorem afterWord?_eq_some_iff : afterWord? s = some rest ↔ EndsRun s ∧ rest = s.tail := by
  cases s with
  | nil =>
    rw [afterWord?, Option.some.injEq, eq_comm]
    exact (and_iff_right endsRun_nil).symm
  | cons c s =>
    rw [afterWord?, endsRun_cons, List.tail_cons, Option.ite_none_right_eq_some,
      Option.some.injEq, eq_comm (a := s)]

/-- A word and the end of it are cut off a text exactly if the word is its first run. -/
theorem dropStart?_bind_afterWord? {first left : Text} (written : IsSolid word)
    (solid : IsSolid first) (ends : EndsRun rest) :
    (Text.dropStart? word (first ++ rest)).bind afterWord? = some left ↔
      word = first ∧ left = rest.tail := by
  simp only [Option.bind_eq_some_iff, Text.dropStart?_eq_some_iff, afterWord?_eq_some_iff]
  constructor
  · rintro ⟨ending, split, behind, rfl⟩
    have same := solid.takeWhile_append ends
    have left := solid.dropWhile_append ends
    rw [split, written.takeWhile_append behind] at same
    rw [split, written.dropWhile_append behind] at left
    exact ⟨same, by rw [left]⟩
  · rintro ⟨rfl, rfl⟩
    exact ⟨rest, rfl, ends, rfl⟩

/-- The first item that a function has a result for is the first one that passes a test. -/
theorem findSome?_eq_map_find? {α β : Type} {f : α → Option β} {test : α → Bool} {g : α → β}
    {items : List α} (each : ∀ a ∈ items, f a = if test a then some (g a) else none) :
    items.findSome? f = (items.find? test).map g := by
  induction items with
  | nil => rfl
  | cons a items ih =>
    rw [List.findSome?_cons, List.find?_cons, each a List.mem_cons_self]
    cases test a with
    | true => rfl
    | false => exact ih fun b mem => each b (List.mem_cons_of_mem a mem)

/-- At the start of a run, that run is cut off with one blank if the table knows it. -/
theorem cut?_run (solid : IsSolid word) (ends : EndsRun rest) :
    cut? (word ++ rest) = (ofWritten? word).map (·, rest.tail) := by
  refine findSome?_eq_map_find? fun acronym mem => ?_
  have first (left : Text) :
      (Text.dropStart? acronym.written (word ++ rest)).bind afterWord? = some left ↔
        acronym.written = word ∧ left = rest.tail :=
    dropStart?_bind_afterWord? (isSolid_written acronym mem) solid ends
  by_cases same : acronym.written = word
  · rw [(first rest.tail).2 ⟨same, rfl⟩]
    simp [same]
  · have none : (Text.dropStart? acronym.written (word ++ rest)).bind afterWord? = none :=
      Option.eq_none_iff_forall_ne_some.2 fun left found => same ((first left).1 found).1
    simp [none, same]

theorem cut?_blank (ends : EndsRun s) : cut? s = none := by
  rw [Option.eq_none_iff_forall_ne_some]
  rintro ⟨acronym, rest⟩ found
  obtain ⟨mem, ending, rfl, -⟩ := cut?_eq_some found
  exact (isSolid_written acronym mem).not_endsRun ending ends

end Cut

/-! ## Reporting -/

/-- Whether the next run begins behind this one and one blank. -/
def Run.meets (run next : Run) : Bool := next.start == run.stop + 1

/-- Of the runs in a row those that are reported, given the run just before if it was reported. -/
def reportedAfter (last : Option Run) : List Run → List Run
  | [] => []
  | run :: rest =>
    if run.acronym?.isSome && !last.any fun before => before.meets run then
      run :: reportedAfter (some run) rest
    else reportedAfter none rest

/-- The runs of a line that are reported: acronyms, but for those that one blank parts from a
reported one just before. -/
def reported (line : Text) : List Run := reportedAfter none (runs line)

section Scan

variable {c : Char} {s word rest : Text}

/-- A run that has not just begun behind a reported one is not held back by it. -/
theorem reportedAfter_of_not_meets {run : Run} {others : List Run}
    (apart : ∀ next ∈ others.head?, run.meets next = false) :
    reportedAfter (some run) others = reportedAfter none others := by
  cases others with
  | nil => rfl
  | cons next others =>
    have apart : run.meets next = false := apart next rfl
    simp only [reportedAfter, Option.any_some, apart, Option.any_none]

/-- Behind a reported run and its blank, only the run that begins right there is held back. -/
theorem reportedAfter_some (run : Run) (s : Text) :
    reportedAfter (some run) (runsFrom (run.stop + 1) s) =
      reportedAfter none
        (runsFrom (run.stop + 1 + (s.takeWhile fun c => !isAsciiBlank c).length)
          (s.dropWhile fun c => !isAsciiBlank c)) := by
  rcases text_shape s with ends | ⟨word, rest, solid, ends, rfl⟩
  · have whole := List.takeWhile_append_dropWhile (p := fun c => !isAsciiBlank c) (l := s)
    rw [ends.dropWhile_eq, List.append_left_eq_self] at whole
    rw [ends.dropWhile_eq, whole, List.length_nil, Nat.add_zero]
    refine reportedAfter_of_not_meets fun next first => ?_
    obtain ⟨found, inside, rfl⟩ := mem_runsFrom_iff.1 (List.mem_of_mem_head? first)
    have := inside.start_pos ends
    simp only [Run.meets, beq_eq_false_iff_ne]
    omega
  · have meets : run.meets ⟨run.stop + 1, word⟩ = true := beq_self_eq_true _
    rw [solid.takeWhile_append ends, solid.dropWhile_append ends, runsFrom_run solid ends]
    simp only [reportedAfter, Option.any_some, meets, Bool.not_true, Bool.and_false,
      Bool.false_eq_true, if_false]

/-- A text is scanned as its runs say, if all that is left of it is. -/
theorem inLine_of_inRest (start : Nat)
    (inRest_eq : ∀ t start, t.length ≤ s.length → inRest t =
      (reportedAfter none (runsFrom start (t.dropWhile fun c => !isAsciiBlank c))).filterMap
        Run.acronym?) :
    inLine s = (reportedAfter none (runsFrom start s)).filterMap Run.acronym? := by
  rcases text_shape s with ends | ⟨word, rest, solid, ends, rfl⟩
  · have whole := inRest_eq s start (Nat.le_refl _)
    rw [ends.dropWhile_eq] at whole
    rw [inLine, cut?_blank ends]
    exact whole
  · rw [inLine, cut?_run solid ends, runsFrom_run solid ends]
    cases known : ofWritten? word with
    | none =>
      have whole := inRest_eq (word ++ rest) (start + word.length) (Nat.le_refl _)
      rw [solid.dropWhile_append ends] at whole
      have unknown : (⟨start, word⟩ : Run).acronym? = none := known
      simp only [Option.map_none, reportedAfter, unknown, Option.isSome_none, Bool.false_and,
        Bool.false_eq_true, if_false]
      exact whole
    | some acronym =>
      have known : (⟨start, word⟩ : Run).acronym? = some acronym := known
      simp only [Option.map_some, reportedAfter, known, Option.isSome_some, Option.any_none,
        Bool.not_false, Bool.and_true, if_true, List.filterMap_cons]
      cases rest with
      | nil => simp [inRest, reportedAfter]
      | cons b rest =>
        have behind := reportedAfter_some ⟨start, word⟩ rest
        rw [runsFrom_blank (endsRun_cons.1 ends), List.tail_cons]
        rw [Run.stop] at behind
        rw [behind]
        exact congrArg _ (inRest_eq rest _ (by simp; omega))

/-- The induction is on the length of the text: an acronym is consumed at once. -/
theorem inRest_eq (s : Text) (start : Nat) :
    inRest s =
      (reportedAfter none (runsFrom start (s.dropWhile fun c => !isAsciiBlank c))).filterMap
        Run.acronym? := by
  generalize count : s.length = n
  induction n using Nat.strongRecOn generalizing s start with
  | ind n ih =>
    subst count
    cases s with
    | nil => simp [inRest, reportedAfter]
    | cons c s =>
      have shorter (t : Text) (start : Nat) (le : t.length ≤ s.length) :=
        ih t.length (Nat.lt_succ_of_le le) t start rfl
      rw [inRest_cons]
      cases blank : isAsciiBlank c with
      | true =>
        rw [if_pos rfl, List.dropWhile_cons_of_neg (by simp [blank]), runsFrom_blank blank]
        exact inLine_of_inRest (start + 1) shorter
      | false =>
        rw [List.dropWhile_cons_of_pos (by simp [blank])]
        exact shorter s start (Nat.le_refl _)

/-- What is found in a line is what the decisions over its runs report. -/
theorem inLine_eq_reported (line : Text) : inLine line = (reported line).filterMap Run.acronym? :=
  inLine_of_inRest 0 fun t start _ => inRest_eq t start

end Scan

/-! ## What is missed -/

/-- The acronyms that stand as runs in a line, from left to right. -/
def inRuns (line : Text) : List Acronym := (runs line).filterMap Run.acronym?

/-- What is said of a word on a line of a file, if the dictionary has it. -/
def wordWarning? (path : Text) (number : Nat) (word : Text) : Option Text :=
  (ofWritten? word).map fun acronym =>
    path ++ ":".toList ++ Text.ofNat number ++ ": replace ".toList ++ word ++ " with ".toList ++
      acronym.canonical

/-- What there is to say of the text of a file: line by line, of each run in the table. -/
def runWarnings (path text : Text) : List Text :=
  ((Text.lines text).zipIdx 1).flatMap fun (line, number) =>
    (runs line).filterMap fun run => wordWarning? path number run.word

/-- Whether no two acronyms of a line have just one blank between them. -/
def IsSpaced (line : Text) : Prop :=
  ∀ first second, IsRun line first → IsRun line second → first.acronym?.isSome = true →
    second.acronym?.isSome = true → first.meets second = false

/-- The warning of a word, spelled out, is that of its acronym. -/
theorem wordWarning?_eq (path : Text) (number : Nat) (word : Text) :
    wordWarning? path number word = (ofWritten? word).map (warning path number) := by
  rw [wordWarning?]
  cases known : ofWritten? word with
  | none => rfl
  | some acronym =>
    obtain ⟨-, rfl⟩ := written_of_ofWritten? known
    rfl

/-- The warnings of all runs of a text are those of the acronyms that stand in its lines as runs. -/
theorem runWarnings_eq (path text : Text) :
    runWarnings path text = ((Text.lines text).zipIdx 1).flatMap fun (line, number) =>
      (inRuns line).map (warning path number) := by
  refine List.flatMap_congr fun (line, number) _ => ?_
  simp only [wordWarning?_eq, inRuns, List.map_filterMap]
  rfl

section Missed

variable {last : Option Run} {row : List Run} {line : Text}

/-- Only runs that the table knows are reported, in their order. -/
theorem reportedAfter_sublist (last : Option Run) (row : List Run) :
    (reportedAfter last row).Sublist (row.filter fun run => run.acronym?.isSome) := by
  induction row generalizing last with
  | nil => exact .slnil
  | cons run row ih =>
    rw [reportedAfter, List.filter_cons]
    cases run.acronym?.isSome with
    | false => exact ih none
    | true =>
      rw [if_pos rfl]
      split
      · exact (ih (some run)).cons_cons run
      · exact (ih none).cons run

/-- If no acronym of a row is held back by another one, all are reported. -/
theorem reportedAfter_eq_filter
    (start : ∀ before ∈ last, ∀ run ∈ row, run.acronym?.isSome = true → before.meets run = false)
    (spaced : ∀ first ∈ row, ∀ second ∈ row, first.acronym?.isSome = true →
      second.acronym?.isSome = true → first.meets second = false) :
    reportedAfter last row = row.filter fun run => run.acronym?.isSome := by
  induction row generalizing last with
  | nil => rfl
  | cons run row ih =>
    have rest (last : Option Run) (start : ∀ before ∈ last, ∀ run ∈ row,
        run.acronym?.isSome = true → before.meets run = false) :=
      ih start fun first mem second mem' =>
        spaced first (List.mem_cons_of_mem run mem) second (List.mem_cons_of_mem run mem')
    rw [reportedAfter, List.filter_cons]
    cases known : run.acronym?.isSome with
    | false => exact rest none (by simp)
    | true =>
      have free : (last.any fun before => before.meets run) = false := by
        rw [Option.any_eq_false]
        exact fun before mem => by simp [start before mem run List.mem_cons_self known]
      have behind := rest (some run) fun before eq next mem known' => by
        obtain rfl := Option.some.inj eq
        exact spaced run List.mem_cons_self next (List.mem_cons_of_mem run mem) known known'
      simp only [free, Bool.not_false, Bool.and_self, if_true, behind]

theorem Run.meets_eq_true_iff {run next : Run} :
    run.meets next = true ↔ next.start = run.stop + 1 := beq_iff_eq

/-- A run that is reported does not stand one blank behind the one reported before. -/
theorem not_meets_of_mem_reportedAfter {before run : Run}
    (ordered : row.Pairwise fun run next => run.stop < next.start)
    (solid : ∀ run ∈ row, IsSolid run.word) (behind : ∀ run ∈ row, before.stop < run.start)
    (mem : run ∈ reportedAfter (some before) row) : before.meets run = false := by
  cases row with
  | nil => cases mem
  | cons next row =>
    -- Further on there is a whole run in between.
    have further (last : Option Run) (mem : run ∈ reportedAfter last row) :
        before.meets run = false := by
      have mem : run ∈ row := (List.mem_filter.1 ((reportedAfter_sublist last row).subset mem)).1
      have first := behind next List.mem_cons_self
      have second := (List.pairwise_cons.1 ordered).1 run mem
      have size := List.length_pos_of_ne_nil (solid next List.mem_cons_self).1
      rw [Bool.eq_false_iff, ne_eq, Run.meets_eq_true_iff]
      rw [Run.stop] at second
      omega
    rw [reportedAfter] at mem
    split at mem
    · rename_i free
      rcases List.mem_cons.1 mem with rfl | mem
      · simpa using (Bool.and_eq_true_iff.1 free).2
      · exact further (some next) mem
    · exact further none mem

/-- Of runs that are reported, none stands one blank behind another. -/
theorem pairwise_reportedAfter (ordered : row.Pairwise fun run next => run.stop < next.start)
    (solid : ∀ run ∈ row, IsSolid run.word) :
    (reportedAfter last row).Pairwise fun run next => run.meets next = false := by
  induction row generalizing last with
  | nil => exact .nil
  | cons run row ih =>
    obtain ⟨behind, ordered⟩ := List.pairwise_cons.1 ordered
    have solid : ∀ run ∈ row, IsSolid run.word :=
      fun next mem => solid next (List.mem_cons_of_mem run mem)
    rw [reportedAfter]
    split
    · exact .cons (fun next mem => not_meets_of_mem_reportedAfter ordered solid behind mem)
        (ih ordered solid)
    · exact ih ordered solid

/-- No reported run of a line has just one blank between it and another one. -/
theorem pairwise_reported (line : Text) : (reported line).Pairwise fun run next =>
    run.meets next = false ∧ next.meets run = false := by
  have ordered := pairwise_runs line
  have solid : ∀ run ∈ runs line, IsSolid run.word := fun run mem => by
    obtain ⟨-, -, -, -, solid, -⟩ := mem_runs_iff.1 mem
    exact solid
  have inOrder : (reported line).Pairwise fun run next => run.stop < next.start :=
    ordered.sublist ((reportedAfter_sublist none _).trans List.filter_sublist)
  refine ((pairwise_reportedAfter ordered solid).and inOrder).imp fun {run next} both => ?_
  obtain ⟨apart, behind⟩ := both
  refine ⟨apart, ?_⟩
  rw [Bool.eq_false_iff, ne_eq, Run.meets_eq_true_iff]
  rw [Run.stop] at behind ⊢
  omega

/-- Every acronym of a line is reported exactly if no two have just one blank between them. -/
theorem reported_eq_filter_iff :
    reported line = (runs line).filter (fun run => run.acronym?.isSome) ↔ IsSpaced line := by
  constructor
  · intro all first second found found' known known'
    have apart := pairwise_reported line
    have mem (run : Run) (found : IsRun line run) (known : run.acronym?.isSome = true) :
        run ∈ reported line := by
      rw [all]
      exact List.mem_filter.2 ⟨mem_runs_iff.2 found, known⟩
    by_cases same : first = second
    · subst same
      rw [Bool.eq_false_iff, ne_eq, Run.meets_eq_true_iff, Run.stop]
      omega
    · have : Std.Symm fun run next : Run =>
          run.meets next = false ∧ next.meets run = false := ⟨fun _ _ both => both.symm⟩
      exact (apart.forall (mem first found known) (mem second found' known') same).1
  · intro spaced
    refine reportedAfter_eq_filter (by simp) fun first mem second mem' => ?_
    exact spaced first second (mem_runs_iff.1 mem) (mem_runs_iff.1 mem')

/-- Whatever is found in a line stands there as a run. -/
theorem inLine_sublist_inRuns (line : Text) : (inLine line).Sublist (inRuns line) := by
  rw [inLine_eq_reported]
  exact ((reportedAfter_sublist none _).trans List.filter_sublist).filterMap _

/-- All runs of a line that the table knows are found just if no two of them meet at one blank. -/
theorem inLine_eq_inRuns_iff : inLine line = inRuns line ↔ IsSpaced line := by
  have kept : inRuns line =
      ((runs line).filter fun run => run.acronym?.isSome).filterMap Run.acronym? := by
    rw [inRuns, List.filterMap_filter]
    refine congrArg (List.filterMap · (runs line)) (funext fun run => ?_)
    cases run.acronym? <;> rfl
  rw [← reported_eq_filter_iff]
  constructor
  · intro same
    have sublist : (reported line).Sublist _ := reportedAfter_sublist none _
    refine sublist.eq_of_length ?_
    -- Both rows hold acronyms only, so each run of them counts.
    have known : ∀ run ∈ (runs line).filter fun run => run.acronym?.isSome,
        run.acronym?.isSome = true := fun run mem => (List.mem_filter.1 mem).2
    have count := congrArg List.length same
    rwa [inLine_eq_reported, kept, List.length_filterMap_eq_countP,
      List.length_filterMap_eq_countP, List.countP_eq_length.2 known,
      List.countP_eq_length.2 fun run mem => known run (sublist.subset mem)] at count
  · intro same
    rw [inLine_eq_reported, same, kept]

end Missed

/-- Lists that are put together of parts are the same exactly if the parts are, if each part of the
one is left of that of the other. -/
theorem flatMap_eq_iff {α β : Type} {items : List α} {f g : α → List β}
    (part : ∀ a ∈ items, (f a).Sublist (g a)) :
    items.flatMap f = items.flatMap g ↔ ∀ a ∈ items, f a = g a := by
  refine ⟨fun same => ?_, List.flatMap_congr⟩
  induction items with
  | nil => simp
  | cons a items ih =>
    have parts : ∀ b ∈ items, (f b).Sublist (g b) :=
      fun b mem => part b (List.mem_cons_of_mem a mem)
    have others := List.Sublist.flatMap_right items parts
    rw [List.flatMap_cons, List.flatMap_cons] at same
    have count := congrArg List.length same
    rw [List.length_append, List.length_append] at count
    have first := (part a List.mem_cons_self).length_le
    have rest := others.length_le
    obtain ⟨here, there⟩ := List.append_inj same (by omega)
    rw [List.forall_mem_cons]
    exact ⟨here, ih parts there⟩

/-- What the scan says of a text is some of what there is to say, and all of it exactly if no two
acronyms on a line have just one blank between them. -/
theorem warnings_eq_runWarnings_iff (path text : Text) :
    (warnings path text).Sublist (runWarnings path text) ∧
      (warnings path text = runWarnings path text ↔ ∀ line ∈ Text.lines text, IsSpaced line) := by
  have part : ∀ numbered ∈ (Text.lines text).zipIdx 1,
      ((inLine numbered.1).map (warning path numbered.2)).Sublist
        ((inRuns numbered.1).map (warning path numbered.2)) :=
    fun numbered _ => (inLine_sublist_inRuns numbered.1).map _
  have same (line : Text) (number : Nat) :
      (inLine line).map (warning path number) = (inRuns line).map (warning path number) ↔
        IsSpaced line := by
    rw [← inLine_eq_inRuns_iff]
    refine ⟨fun same => ?_, fun same => by rw [same]⟩
    refine (inLine_sublist_inRuns line).eq_of_length ?_
    simpa using congrArg List.length same
  rw [runWarnings_eq]
  refine ⟨List.Sublist.flatMap_right _ part, ?_⟩
  rw [warnings, flatMap_eq_iff part, List.forall_mem_zipIdx]
  simp only [same, List.forall_mem_iff_forall_getElem]

end Acronym

namespace Inspection

open Acronym

/-- What the scan says of files is some of what there is to say of them. It is all of it, a warning
for each acronym that stands as a run in a line, exactly if no two acronyms on a line have just one
blank between them. -/
theorem check_acronyms_complete_iff {σ : Type} (launch : Launcher σ) (accepted : List Candidate)
    (state : σ) :
    ∃ found, (⟨.scan .acronyms, accepted⟩ : Inspection).check launch state = (.ok found, state) ∧
      found.Sublist (accepted.flatMap fun file => runWarnings file.path file.text) ∧
      ((found = accepted.flatMap fun file => runWarnings file.path file.text) ↔
        ∀ file ∈ accepted, ∀ line ∈ Text.lines file.text, IsSpaced line) := by
  have part : ∀ file ∈ accepted, (Scan.acronyms.warnings file).Sublist
      (runWarnings file.path file.text) :=
    fun file _ => (warnings_eq_runWarnings_iff file.path file.text).1
  refine ⟨_, check_scan launch state rfl, List.Sublist.flatMap_right _ part, ?_⟩
  rw [flatMap_eq_iff part]
  exact forall₂_congr fun file _ => (warnings_eq_runWarnings_iff file.path file.text).2

/-! ## Two acronyms side by side -/

/-- The scan of a page with two acronyms that one blank parts. -/
def neighbours : Inspection :=
  ⟨.scan .acronyms,
    [{ Candidate.ofPaths "/t/0".toList "TODO".toList with contents := some "sql gnu".toList }]⟩

/-- Of two acronyms one blank apart only the first is reported. -/
theorem check_neighbours :
    neighbours.check (fun _ launches => (.ok ⟨0, []⟩, launches + 1)) 0 =
        (.ok ["TODO:1: replace sql with SQL".toList], 0) ∧
      (neighbours.accepted.flatMap fun file => runWarnings file.path file.text) =
        ["TODO:1: replace sql with SQL".toList, "TODO:1: replace gnu with GNU".toList] := by
  constructor
  · cbv
  · cbv

end Inspection

end CheckoutLint
