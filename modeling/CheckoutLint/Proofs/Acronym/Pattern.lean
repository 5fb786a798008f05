import CheckoutLint.Proofs.Acronym.Reported
import Mathlib

/-!
The scan as a search for a pattern with an alternative for each word of the dictionary: the start of
the line or a blank, the word, the end of the line or a blank. At each place the alternatives are
tried in some order; what the first one that fits consumes is a hit, and the search goes on behind
it. A hit is trimmed and looked up, and would be passed over if the dictionary did not have it.

* `hit?_blank`, `hit?_solid`: where a place has a hit.
* `hit?_perm`, `hits_perm`: the order of the alternatives does not matter.
* `map_lookUp_hits`: the hits of a line, trimmed and looked up, are what the scan finds.
* `check_acronyms`: what is said of files, in terms of runs, and how the pattern comes to it.
-/

namespace CheckoutLint

namespace Acronym

/-! ## The pattern -/

/-- The ways to begin in front of a word: at the start of the line with nothing, else with a blank;
each with what it leaves. -/
def fronts (atStart : Bool) (s : Text) : List (Text × Text) :=
  (if atStart then [([], s)] else []) ++
    match s with
    | [] => []
    | c :: rest => if isAsciiBlank c then [([c], rest)] else []

/-- The ways to end behind a word: at the end of the line with nothing, else with a blank. -/
def backs : Text → List Text
  | [] => [[]]
  | c :: _ => if isAsciiBlank c then [[c]] else []

/-- What a word and the end behind it consume of a text. -/
def consume? (word s : Text) : Option Text :=
  (Text.dropStart? word s).bind fun rest => (backs rest).head?.map fun back => word ++ back

/-- What the alternative for a word consumes at a place of a line. -/
def alternative? (atStart : Bool) (s word : Text) : Option Text :=
  (fronts atStart s).findSome? fun (front, rest) =>
    (consume? word rest).map fun consumed => front ++ consumed

/-- What the first alternative that fits consumes at a place of a line. -/
def hit? (order : List Text) (atStart : Bool) (s : Text) : Option Text :=
  order.findSome? (alternative? atStart s)

/-- The hits in what is left of a line, from left to right. -/
def hitsFrom (order : List Text) (atStart : Bool) : Text → List Text
  | [] => []
  | c :: s =>
    match hit? order atStart (c :: s) with
    | some hit => hit :: hitsFrom order false (s.drop (hit.length - 1))
    | none => hitsFrom order false s
termination_by s => s.length

/-- The hits in a line, if the alternatives are tried in this order. -/
def hits (order : List Text) (line : Text) : List Text := hitsFrom order true line

/-- The words of the dictionary. -/
def words : List Text := all.map Acronym.written

/-- The warnings for the text of a file, line by line, from hits that are trimmed and looked up. -/
def hitWarnings (order : List Text) (path text : Text) : List Text :=
  ((Text.lines text).zipIdx 1).flatMap fun (line, number) =>
    (hits order line).filterMap fun hit => wordWarning? path number (Text.trim hit)

/-- The warnings for the text of a file, line by line, from the runs that are reported. -/
def reportedWarnings (path text : Text) : List Text :=
  ((Text.lines text).zipIdx 1).flatMap fun (line, number) =>
    (reported line).filterMap fun run => wordWarning? path number run.word

/-! ## Hits are runs -/

section Hit

variable {c : Char} {order : List Text} {s first word rest back consumed : Text}

/-- What the end of the pattern takes first is one blank if one stands there, else nothing at the
end of the line. -/
theorem head?_backs_eq_some_iff : (backs s).head? = some back ↔ EndsRun s ∧ back = s.take 1 := by
  cases s with
  | nil => simp [backs, eq_comm]
  | cons c s =>
    rw [backs, endsRun_cons]
    cases isAsciiBlank c <;> simp [eq_comm]

/-- A word of the pattern fits where it stands up to the end of a run, and takes a blank behind it
along. -/
theorem consume?_eq_some_iff :
    consume? word s = some consumed ↔
      ∃ rest, s = word ++ rest ∧ EndsRun rest ∧ consumed = word ++ rest.take 1 := by
  simp only [consume?, Option.bind_eq_some_iff, Option.map_eq_some_iff,
    Text.dropStart?_eq_some_iff, head?_backs_eq_some_iff]
  constructor
  · rintro ⟨rest, split, back, ⟨ends, rfl⟩, rfl⟩
    exact ⟨rest, split, ends, rfl⟩
  · rintro ⟨rest, split, ends, rfl⟩
    exact ⟨rest, split, _, ⟨ends, rfl⟩, rfl⟩

theorem consume?_blank (written : IsSolid word) (ends : EndsRun s) : consume? word s = none := by
  rw [Option.eq_none_iff_forall_ne_some]
  intro consumed found
  obtain ⟨rest, rfl, -⟩ := consume?_eq_some_iff.1 found
  exact written.not_endsRun rest ends

/-- A word is consumed exactly if it is the run at the place. -/
theorem consume?_run (written : IsSolid word) (solid : IsSolid first) (ends : EndsRun rest) :
    consume? word (first ++ rest) = if word = first then some (first ++ rest.take 1) else none := by
  split
  · rename_i same
    subst same
    exact consume?_eq_some_iff.2 ⟨rest, rfl, ends, rfl⟩
  · rename_i other
    rw [Option.eq_none_iff_forall_ne_some]
    intro consumed found
    obtain ⟨left, split, behind, -⟩ := consume?_eq_some_iff.1 found
    have same := solid.takeWhile_append ends
    rw [split, written.takeWhile_append behind] at same
    exact other same

/-- Of words in whatever order, the run at a place is consumed if it is one of them. -/
theorem findSome?_consume? (written : ∀ word ∈ order, IsSolid word) (solid : IsSolid first)
    (ends : EndsRun rest) :
    (order.findSome? fun word => consume? word (first ++ rest)) =
      if first ∈ order then some (first ++ rest.take 1) else none := by
  induction order with
  | nil => rfl
  | cons word order ih =>
    have others := ih fun other mem => written other (List.mem_cons_of_mem word mem)
    rw [List.findSome?_cons, consume?_run (written word List.mem_cons_self) solid ends, others]
    by_cases same : word = first
    · simp [same]
    · simp [same, Ne.symm same]

theorem findSome?_consume?_blank (written : ∀ word ∈ order, IsSolid word) (ends : EndsRun s) :
    (order.findSome? fun word => consume? word s) = none :=
  List.findSome?_eq_none_iff.2 fun word mem => consume?_blank (written word mem) ends

/-- Behind a blank an alternative takes that blank along, also at the start of the line. -/
theorem alternative?_blank (written : IsSolid word) (blank : isAsciiBlank c = true)
    (atStart : Bool) (s : Text) :
    alternative? atStart (c :: s) word = (consume? word s).map fun consumed => c :: consumed := by
  have none : consume? word (c :: s) = none := consume?_blank written (endsRun_cons.2 blank)
  cases atStart <;> simp [alternative?, fronts, blank, none]

/-- Behind a blank the words are consumed as at the start of a line, together with the blank. -/
theorem hit?_blank (written : ∀ word ∈ order, IsSolid word) (blank : isAsciiBlank c = true)
    (atStart : Bool) (s : Text) :
    hit? order atStart (c :: s) =
      (order.findSome? fun word => consume? word s).map fun consumed => c :: consumed := by
  induction order with
  | nil => rfl
  | cons word order ih =>
    have others := ih fun other mem => written other (List.mem_cons_of_mem word mem)
    rw [hit?, List.findSome?_cons, List.findSome?_cons,
      alternative?_blank (written word List.mem_cons_self) blank]
    cases consume? word s with
    | none => exact others
    | some => rfl

/-- Without a blank in front, words are consumed at the start of a line only. -/
theorem hit?_solid (solid : isAsciiBlank c = false) (atStart : Bool) (s : Text) :
    hit? order atStart (c :: s) =
      if atStart then order.findSome? fun word => consume? word (c :: s) else none := by
  cases atStart with
  | false => simp [hit?, alternative?, fronts, solid]
  | true =>
    have front (word : Text) : alternative? true (c :: s) word = consume? word (c :: s) := by
      simp [alternative?, fronts, solid]
    simp only [hit?, if_true, funext front]

end Hit

/-! ## The order of the alternatives -/

section Order

variable {c : Char} {order : List Text} {s word rest : Text} {acronym : Acronym}

/-- The words of the pattern are those under which the table knows an acronym. -/
theorem mem_words_iff : word ∈ words ↔ (ofWritten? word).isSome = true := by
  simp [words, ofWritten?]

theorem isSolid_of_perm (perm : order.Perm words) : ∀ word ∈ order, IsSolid word := by
  intro word mem
  obtain ⟨acronym, known, rfl⟩ := List.mem_map.1 (perm.mem_iff.1 mem)
  exact isSolid_written acronym known

/-- At most one word fits at a place, so that the order of the alternatives does not count. -/
theorem findSome?_consume?_perm (perm : order.Perm words) (s : Text) :
    (order.findSome? fun word => consume? word s) =
      words.findSome? fun word => consume? word s := by
  have written := isSolid_of_perm perm
  have writtenWords := isSolid_of_perm (List.Perm.refl words)
  rcases text_shape s with ends | ⟨first, rest, solid, ends, rfl⟩
  · rw [findSome?_consume?_blank written ends, findSome?_consume?_blank writtenWords ends]
  · simp only [findSome?_consume? written solid ends, findSome?_consume? writtenWords solid ends,
      perm.mem_iff]

/-- At no place does it matter in what order the alternatives are tried. -/
theorem hit?_perm (perm : order.Perm words) (atStart : Bool) (c : Char) (s : Text) :
    hit? order atStart (c :: s) = hit? words atStart (c :: s) := by
  have written := isSolid_of_perm perm
  have writtenWords := isSolid_of_perm (List.Perm.refl words)
  cases first : isAsciiBlank c with
  | true =>
    rw [hit?_blank written first, hit?_blank writtenWords first, findSome?_consume?_perm perm]
  | false => rw [hit?_solid first, hit?_solid first, findSome?_consume?_perm perm]

theorem hitsFrom_perm (perm : order.Perm words) (atStart : Bool) (s : Text) :
    hitsFrom order atStart s = hitsFrom words atStart s := by
  generalize count : s.length = n
  induction n using Nat.strongRecOn generalizing atStart s with
  | ind n ih =>
    subst count
    cases s with
    | nil => rw [hitsFrom, hitsFrom]
    | cons c s =>
      have shorter (t : Text) (le : t.length ≤ s.length) :
          hitsFrom order false t = hitsFrom words false t :=
        ih t.length (Nat.lt_succ_of_le le) false t rfl
      rw [hitsFrom, hitsFrom, hit?_perm perm]
      cases hit? words atStart (c :: s) with
      | none => exact shorter s (Nat.le_refl _)
      | some hit => exact congrArg (hit :: ·) (shorter _ (by simp))

/-- The hits of a line do not depend on the order of the alternatives. -/
theorem hits_perm (perm : order.Perm words) (line : Text) : hits order line = hits words line :=
  hitsFrom_perm perm true line

/-! ## Hits are what the scan finds -/

/-- Blanks on both sides of a text without blanks are trimmed away. -/
theorem trim_between {front back s : Text} (left : ∀ c ∈ front, isBlank c = true)
    (right : ∀ c ∈ back, isBlank c = true) (ne : s ≠ []) (plain : ∀ c ∈ s, isBlank c = false) :
    Text.trim (front ++ (s ++ back)) = s := by
  have first : Text.trimStart (front ++ (s ++ back)) = s ++ back := by
    rw [Text.trimStart, List.dropWhile_append_of_pos left]
    refine Text.trimStart_eq_self_iff.2 fun c mem => plain c ?_
    rw [List.head?_append_of_ne_nil _ ne] at mem
    exact List.mem_of_mem_head? mem
  have last : s.reverse.dropWhile isBlank = s.reverse :=
    Text.trimStart_eq_self_iff.2 fun c mem =>
      plain c (List.mem_reverse.1 (List.mem_of_mem_head? mem))
  rw [Text.trim, first, Text.trimEnd, List.reverse_append,
    List.dropWhile_append_of_pos fun c mem => right c (List.mem_reverse.1 mem), last,
    List.reverse_reverse]

/-- A hit without its blanks is a word as the table writes it. -/
theorem trim_hit (known : acronym ∈ all) {front back : Text}
    (left : ∀ c ∈ front, isAsciiBlank c = true) (right : ∀ c ∈ back, isAsciiBlank c = true) :
    Text.trim (front ++ (acronym.written ++ back)) = acronym.written := by
  have letters : (all.all fun acronym => acronym.written.all fun c => !isBlank c) = true := by
    decide
  have plain : ∀ c ∈ acronym.written, isBlank c = false := by
    simpa using List.all_eq_true.1 (List.all_eq_true.1 letters acronym known)
  exact trim_between (fun c mem => isAsciiBlank_imp_isBlank (left c mem))
    (fun c mem => isAsciiBlank_imp_isBlank (right c mem)) (isSolid_written acronym known).1 plain

/-- No alternative fits where no run of the table begins. -/
theorem findSome?_of_not_cut (uncut : cut? s = none) :
    (words.findSome? fun word => consume? word s) = none := by
  have written := isSolid_of_perm (List.Perm.refl words)
  rcases text_shape s with ends | ⟨first, rest, solid, ends, rfl⟩
  · exact findSome?_consume?_blank written ends
  · rw [cut?_run solid ends, Option.map_eq_none_iff] at uncut
    rw [findSome?_consume? written solid ends, if_neg (by simp [mem_words_iff, uncut])]

/-- An alternative fits where a run of the table begins, and takes it with the blank behind it. -/
theorem findSome?_of_cut (cut : cut? s = some (acronym, rest)) :
    ∃ back, (words.findSome? fun word => consume? word s) = some (acronym.written ++ back) ∧
      s = acronym.written ++ back ++ rest ∧ ∀ c ∈ back, isAsciiBlank c = true := by
  obtain ⟨known, ending, rfl, behind⟩ := cut?_eq_some cut
  obtain ⟨ends, rfl⟩ := afterWord?_eq_some_iff.1 behind
  have solid := isSolid_written acronym known
  have mem : acronym.written ∈ words := List.mem_map_of_mem known
  refine ⟨ending.take 1, ?_, ?_, ?_⟩
  · rw [findSome?_consume? (isSolid_of_perm (List.Perm.refl words)) solid ends, if_pos mem]
  · cases ending <;> simp
  · cases ending with
    | nil => simp
    | cons c ending => simpa using ends

/-- Behind a hit the search goes on where the hit ends. -/
theorem hitsFrom_of_hit {atStart : Bool} {hit : Text}
    (found : hit? order atStart (c :: s) = some hit) (ne : hit ≠ [])
    (split : c :: s = hit ++ rest) :
    hitsFrom order atStart (c :: s) = hit :: hitsFrom order false rest := by
  obtain ⟨d, hit, rfl⟩ := List.exists_cons_of_ne_nil ne
  obtain ⟨rfl, rfl⟩ := List.cons.inj split
  rw [hitsFrom, found]
  simp

theorem hitsFrom_of_no_hit {atStart : Bool} (none : hit? order atStart (c :: s) = none) :
    hitsFrom order atStart (c :: s) = hitsFrom order false s := by
  rw [hitsFrom, none]

/-- What a hit comes to, once it is trimmed and looked up. -/
def lookUp (hit : Text) : Option Acronym := ofWritten? (Text.trim hit)

/-- Every hit is found in the table. -/
theorem lookUp_hit (known : acronym ∈ all) (front : Text) {back : Text}
    (left : ∀ c ∈ front, isAsciiBlank c = true) (right : ∀ c ∈ back, isAsciiBlank c = true) :
    lookUp (front ++ (acronym.written ++ back)) = some acronym := by
  have distinct : ∀ acronym ∈ all, ofWritten? acronym.written = some acronym := by decide
  rw [lookUp, trim_hit known left right, distinct acronym known]

/-- Where words are consumed, with nothing or a blank in front, the next hit is what the scan cuts
off there, if what is left has the hits that the scan finds. -/
theorem map_lookUp_hitsFrom {atStart : Bool} {t : Text} (front : Text)
    (blanks : ∀ d ∈ front, isAsciiBlank d = true) (split : c :: t = front ++ s)
    (here : hit? words atStart (c :: t) =
      (words.findSome? fun word => consume? word s).map fun consumed => front ++ consumed)
    (passed : (hitsFrom words false t).map lookUp = (inRest s).map some)
    (behind : ∀ rest, rest.length ≤ t.length →
      (hitsFrom words false rest).map lookUp = (inRest rest).map some) :
    (hitsFrom words atStart (c :: t)).map lookUp = (inLine s).map some := by
  rw [inLine]
  cases cut : cut? s with
  | none =>
    rw [findSome?_of_not_cut cut] at here
    rw [hitsFrom_of_no_hit here]
    exact passed
  | some found =>
    obtain ⟨acronym, rest⟩ := found
    obtain ⟨back, consumed, whole, right⟩ := findSome?_of_cut cut
    have known := (cut?_eq_some cut).1
    have ne : front ++ (acronym.written ++ back) ≠ [] := by simp [(isSolid_written acronym known).1]
    have apart : c :: t = front ++ (acronym.written ++ back) ++ rest := by
      rw [split, whole, List.append_assoc, List.append_assoc, List.append_assoc]
    have shorter : rest.length ≤ t.length := by
      have count := congrArg List.length apart
      have size := List.length_pos_of_ne_nil ne
      rw [List.length_cons, List.length_append] at count
      omega
    rw [consumed] at here
    rw [hitsFrom_of_hit here ne apart, List.map_cons, List.map_cons, behind rest shorter]
    exact congrArg (· :: _) (lookUp_hit known front blanks right)

/-- The induction is on the length of the text: a hit is consumed at once. -/
theorem map_lookUp_hitsFrom_false (s : Text) :
    (hitsFrom words false s).map lookUp = (inRest s).map some := by
  generalize count : s.length = n
  induction n using Nat.strongRecOn generalizing s with
  | ind n ih =>
    subst count
    cases s with
    | nil =>
      rw [hitsFrom, inRest]
      rfl
    | cons c s =>
      have shorter (t : Text) (le : t.length ≤ s.length) :
          (hitsFrom words false t).map lookUp = (inRest t).map some :=
        ih t.length (Nat.lt_succ_of_le le) t rfl
      rw [inRest_cons]
      cases first : isAsciiBlank c with
      | false =>
        rw [hitsFrom_of_no_hit (by rw [hit?_solid first]; rfl)]
        exact shorter s (Nat.le_refl _)
      | true =>
        have here := hit?_blank (isSolid_of_perm (List.Perm.refl words)) first false s
        exact map_lookUp_hitsFrom [c] (by simpa using first) rfl here
          (shorter s (Nat.le_refl _)) shorter

/-- The hits of a line are the acronyms found by the recursion over its runs, in order. -/
theorem map_lookUp_hits (line : Text) :
    (hits words line).map lookUp = (inLine line).map some := by
  have written := isSolid_of_perm (List.Perm.refl words)
  rw [hits]
  cases line with
  | nil =>
    rw [hitsFrom, inLine, cut?_blank endsRun_nil, inRest]
    rfl
  | cons c s =>
    cases first : isAsciiBlank c with
    | true =>
      have same : hitsFrom words true (c :: s) = hitsFrom words false (c :: s) := by
        rw [hitsFrom, hitsFrom, hit?_blank written first, hit?_blank written first]
      rw [same, inLine, cut?_blank (endsRun_cons.2 first)]
      exact map_lookUp_hitsFrom_false (c :: s)
    | false =>
      have here : hit? words true (c :: s) =
          (words.findSome? fun word => consume? word (c :: s)).map fun consumed =>
            [] ++ consumed := by
        rw [hit?_solid first, if_pos rfl]
        exact Option.map_id'.symm
      have passed : (hitsFrom words false s).map lookUp = (inRest (c :: s)).map some := by
        rw [inRest_cons, first]
        exact map_lookUp_hitsFrom_false s
      exact map_lookUp_hitsFrom [] (by simp) rfl here passed fun rest _ =>
        map_lookUp_hitsFrom_false rest

end Order

/-! ## Warnings -/

theorem reportedWarnings_eq (path text : Text) :
    reportedWarnings path text = warnings path text := by
  refine List.flatMap_congr fun (line, number) _ => ?_
  simp only [wordWarning?_eq, inLine_eq_reported, List.map_filterMap]
  rfl

/-- In any order of the alternatives, the pattern and the recursion over runs warn alike. -/
theorem hitWarnings_eq {order : List Text} (perm : order.Perm words) (path text : Text) :
    hitWarnings order path text = warnings path text := by
  refine List.flatMap_congr fun (line, number) _ => ?_
  have found := congrArg (List.filterMap (Option.map (warning path number))) (map_lookUp_hits line)
  rw [List.filterMap_map, List.filterMap_map] at found
  simp only [wordWarning?_eq, hits_perm perm]
  exact found.trans (congrFun List.filterMap_eq_map (inLine line))

/-- Whatever is consumed is a word of the dictionary, with blanks around it. -/
theorem trim_mem_words {order : List Text} (perm : order.Perm words) {line hit : Text}
    (mem : hit ∈ hits order line) : Text.trim hit ∈ words := by
  rw [hits_perm perm] at mem
  have found := List.mem_map_of_mem (f := lookUp) mem
  rw [map_lookUp_hits] at found
  obtain ⟨acronym, -, known⟩ := List.mem_map.1 found
  rw [lookUp] at known
  rw [mem_words_iff, ← known]
  rfl

end Acronym

namespace Inspection

open Acronym

/-- What is said of files: on each line, from left to right, of each run that is an acronym, unless
the run just before it has been reported and one blank stands between. The search for the pattern
comes to this in whatever order its alternatives are tried; it has the same hits in any order, and
each of them, trimmed, is a word of the dictionary. -/
theorem check_acronyms {σ : Type} (launch : Launcher σ) (accepted : List Candidate) (state : σ) :
    (⟨.scan .acronyms, accepted⟩ : Inspection).check launch state =
        (.ok (accepted.flatMap fun file => reportedWarnings file.path file.text), state) ∧
      (∀ line, (∀ run, run ∈ runs line ↔ IsRun line run) ∧
        (runs line).Pairwise fun run next => run.stop < next.start) ∧
      ∀ order, order.Perm words →
        (⟨.scan .acronyms, accepted⟩ : Inspection).check launch state =
            (.ok (accepted.flatMap fun file => hitWarnings order file.path file.text), state) ∧
          ∀ line, hits order line = hits words line ∧
            ∀ hit ∈ hits order line, Text.trim hit ∈ words := by
  have checked := check_scan launch state
    (rfl : (⟨.scan .acronyms, accepted⟩ : Inspection).checker = .scan .acronyms)
  refine ⟨?_, fun line => ⟨fun run => mem_runs_iff, pairwise_runs line⟩, fun order perm =>
    ⟨?_, fun line => ⟨hits_perm perm line, fun hit mem => trim_mem_words perm mem⟩⟩⟩
  · simp only [reportedWarnings_eq]
    exact checked
  · simp only [hitWarnings_eq perm]
    exact checked

/-! ## Acronyms side by side, two blanks apart, and behind one that is passed over -/

/-- The scan of a page on which five acronyms stand, two of them right behind a reported one. -/
def crowded : Inspection :=
  ⟨.scan .acronyms, [{ Candidate.ofPaths "/t/0".toList "TODO".toList with
    contents := some "sql gnu  oop\tcgi dpi\n".toList }]⟩

/-- A line of words one blank apart: every second one is a hit, in reversed order of the
alternatives too. -/
theorem check_crowded :
    words.reverse.Perm words ∧
      crowded.check (fun _ launches => (.ok ⟨0, []⟩, launches + 1)) 0 =
        (.ok ["TODO:1: replace sql with SQL".toList, "TODO:1: replace oop with OOP".toList,
          "TODO:1: replace dpi with DPI".toList], 0) ∧
      hits words.reverse "sql gnu  oop\tcgi dpi".toList =
        ["sql ".toList, " oop\t".toList, " dpi".toList] := by
  have perm : words.reverse.Perm words := List.reverse_perm words
  obtain ⟨checked, -, pattern⟩ := check_acronyms
    (fun _ launches => (.ok ⟨0, []⟩, launches + 1)) crowded.accepted 0
  refine ⟨perm, checked.trans ?_, ((pattern words.reverse perm).2 _).1.trans ?_⟩
  · cbv
  · cbv

end Inspection

end CheckoutLint
