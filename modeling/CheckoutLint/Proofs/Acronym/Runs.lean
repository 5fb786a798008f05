import CheckoutLint.Acronym
import Mathlib

/-!
The runs of a line: its longest stretches without a blank of ASCII. The scan for acronyms goes
through a line character by character; what it comes to is said in terms of runs.

* `text_shape`, `text_induction`: a text begins with a run, or with a blank, or is empty.
* `mem_runs_iff`, `pairwise_runs`: which runs a line has, and in what order they come.
-/

namespace CheckoutLint.Acronym

/-! ## Runs -/

/-- A run of characters, with the number of characters that stand before it in its line. -/
structure Run where
  start : Nat
  word : Text
  deriving DecidableEq, Repr

/-- The place of the character behind the run. -/
def Run.stop (run : Run) : Nat := run.start + run.word.length

/-- A text that can be a run: something without a blank. -/
def IsSolid (word : Text) : Prop := word ≠ [] ∧ ∀ c ∈ word, isAsciiBlank c = false

/-- A text before which a run ends: nothing, or a blank and what is behind it. -/
def EndsRun (rest : Text) : Prop := ∀ c ∈ rest.head?, isAsciiBlank c = true

instance (word : Text) : Decidable (IsSolid word) :=
  have := List.decidableBAll (fun c => isAsciiBlank c = false) word
  inferInstanceAs (Decidable (_ ∧ _))

/-- `run` is a run of the line: it holds no blank, and no character beside it could be added. -/
def IsRun (line : Text) (run : Run) : Prop :=
  ∃ before after, line = before ++ (run.word ++ after) ∧ run.start = before.length ∧
    IsSolid run.word ∧ EndsRun before.reverse ∧ EndsRun after

/-- The runs of a text, if `start` characters stand before it. -/
def runsFrom (start : Nat) : Text → List Run
  | [] => []
  | c :: s =>
    if isAsciiBlank c then runsFrom (start + 1) s
    else
      let word := c :: s.takeWhile fun d => !isAsciiBlank d
      ⟨start, word⟩ :: runsFrom (start + word.length) (s.dropWhile fun d => !isAsciiBlank d)
termination_by s => s.length
decreasing_by
  · simp
  · exact Nat.lt_succ_of_le (List.dropWhile_suffix _).length_le

/-- The runs of a line, from left to right. -/
def runs (line : Text) : List Run := runsFrom 0 line

section Shape

variable {c : Char} {s word rest : Text}

@[simp]
theorem endsRun_nil : EndsRun [] := by simp [EndsRun]

@[simp]
theorem endsRun_cons : EndsRun (c :: s) ↔ isAsciiBlank c = true := by simp [EndsRun]

theorem EndsRun.dropWhile_eq (ends : EndsRun s) : s.dropWhile (fun c => !isAsciiBlank c) = s := by
  cases s with
  | nil => rfl
  | cons c s => rw [List.dropWhile_cons_of_neg (by simp [endsRun_cons.1 ends])]

/-- A solid text begins with a character that is no blank, so no run ends before it. -/
theorem IsSolid.not_endsRun (solid : IsSolid word) (rest : Text) : ¬ EndsRun (word ++ rest) := by
  obtain ⟨c, word, rfl⟩ := List.exists_cons_of_ne_nil solid.1
  rw [List.cons_append, endsRun_cons, solid.2 c List.mem_cons_self]
  exact Bool.false_ne_true

/-- A run is what stands in front of the first blank. -/
theorem IsSolid.takeWhile_append (solid : IsSolid word) (ends : EndsRun rest) :
    (word ++ rest).takeWhile (fun c => !isAsciiBlank c) = word := by
  have inside : ∀ c ∈ word, (!isAsciiBlank c) = true := fun c mem => by rw [solid.2 c mem]; rfl
  rw [List.takeWhile_append_of_pos inside]
  cases rest with
  | nil => simp
  | cons d rest => simp [endsRun_cons.1 ends]

/-- Behind a run stands what follows it. -/
theorem IsSolid.dropWhile_append (solid : IsSolid word) (ends : EndsRun rest) :
    (word ++ rest).dropWhile (fun c => !isAsciiBlank c) = rest := by
  have parts := List.takeWhile_append_dropWhile (p := fun c => !isAsciiBlank c) (l := word ++ rest)
  rw [solid.takeWhile_append ends] at parts
  exact List.append_cancel_left parts

/-- A text that does not begin with a blank begins with a run. -/
theorem exists_run (solid : isAsciiBlank c = false) (s : Text) :
    IsSolid (c :: s.takeWhile fun d => !isAsciiBlank d) ∧
      EndsRun (s.dropWhile fun d => !isAsciiBlank d) := by
  refine ⟨⟨List.cons_ne_nil _ _, ?_⟩, ?_⟩
  · intro d mem
    rcases List.mem_cons.1 mem with rfl | mem
    · exact solid
    · simpa using List.mem_takeWhile_imp mem
  · intro d mem
    have stops := List.head?_dropWhile_not (fun d => !isAsciiBlank d) s
    rw [Option.mem_def.1 mem] at stops
    simpa using stops

/-- A text begins with a run, unless it is empty or begins with a blank. -/
theorem text_shape (s : Text) :
    EndsRun s ∨ ∃ word rest, IsSolid word ∧ EndsRun rest ∧ s = word ++ rest := by
  cases s with
  | nil => exact .inl endsRun_nil
  | cons c s =>
    cases blank : isAsciiBlank c with
    | true => exact .inl (endsRun_cons.2 blank)
    | false =>
      obtain ⟨solid, ends⟩ := exists_run blank s
      refine .inr ⟨_, _, solid, ends, ?_⟩
      rw [List.cons_append, List.takeWhile_append_dropWhile]

@[simp]
theorem runsFrom_nil (start : Nat) : runsFrom start [] = [] := by
  rw [runsFrom]

theorem runsFrom_blank (blank : isAsciiBlank c = true) (start : Nat) (s : Text) :
    runsFrom start (c :: s) = runsFrom (start + 1) s := by
  rw [runsFrom, if_pos blank]

/-- A run in front of its end is the first one. -/
theorem runsFrom_run (solid : IsSolid word) (ends : EndsRun rest) (start : Nat) :
    runsFrom start (word ++ rest) = ⟨start, word⟩ :: runsFrom (start + word.length) rest := by
  have whole := solid.takeWhile_append ends
  have left := solid.dropWhile_append ends
  obtain ⟨c, word, rfl⟩ := List.exists_cons_of_ne_nil solid.1
  have first : isAsciiBlank c = false := solid.2 c List.mem_cons_self
  rw [List.cons_append, List.takeWhile_cons_of_pos (by rw [first]; rfl)] at whole
  rw [List.cons_append, List.dropWhile_cons_of_pos (by rw [first]; rfl)] at left
  rw [List.cons_append, runsFrom, first]
  simp only [Bool.false_eq_true, if_false, whole, left]

/-- What holds of the empty text, and spreads over a blank or a run put in front, holds of any text.
-/
@[elab_as_elim]
theorem text_induction {motive : Text → Prop} (nil : motive [])
    (blank : ∀ c s, isAsciiBlank c = true → motive s → motive (c :: s))
    (run : ∀ word rest, IsSolid word → EndsRun rest → motive rest → motive (word ++ rest))
    (s : Text) : motive s := by
  generalize count : s.length = n
  induction n using Nat.strongRecOn generalizing s with
  | ind n ih =>
    subst count
    rcases text_shape s with ends | ⟨word, rest, solid, ends, rfl⟩
    · cases s with
      | nil => exact nil
      | cons c s => exact blank c s (endsRun_cons.1 ends) (ih _ (by simp) s rfl)
    · have shorter : rest.length < (word ++ rest).length := by
        have := List.length_pos_of_ne_nil solid.1
        rw [List.length_append]
        omega
      exact run word rest solid ends (ih _ shorter rest rfl)

end Shape

/-! ## Which runs a line has -/

section IsRun

variable {c : Char} {s word rest : Text} {run : Run}

theorem endsRun_reverse_append {before : Text} (ne : before ≠ []) (front : Text) :
    EndsRun (front ++ before).reverse ↔ EndsRun before.reverse := by
  have some : before.reverse ≠ [] := by simpa using ne
  rw [List.reverse_append, EndsRun, EndsRun, List.head?_append_of_ne_nil _ some]

/-- No run ends where the last character of another one stands before it. -/
theorem eq_nil_of_endsRun_reverse {before : Text} (ends : EndsRun before.reverse)
    (inside : ∀ c ∈ before, isAsciiBlank c = false) : before = [] := by
  by_contra ne
  have blank := ends (before.getLast ne) (by simp [List.getLast?_eq_some_getLast ne])
  rw [inside _ (List.getLast_mem ne)] at blank
  cases blank

theorem not_isRun_nil (run : Run) : ¬ IsRun [] run := by
  rintro ⟨before, after, split, -, solid, -⟩
  obtain ⟨-, split⟩ := List.append_eq_nil_iff.1 split.symm
  exact solid.1 (List.append_eq_nil_iff.1 split).1

/-- No run begins where another one has just ended. -/
theorem IsRun.start_pos (found : IsRun s run) (ends : EndsRun s) : 0 < run.start := by
  obtain ⟨before, after, rfl, start, solid, -⟩ := found
  rw [start, List.length_pos_iff]
  rintro rfl
  exact solid.not_endsRun after ends

/-- A run of a text is one behind more text too, unless it stood at the start and is made longer. -/
theorem IsRun.append_front {first : Run} (found : IsRun s first) (front : Text)
    (ends : EndsRun front.reverse ∨ EndsRun s) :
    IsRun (front ++ s) ⟨front.length + first.start, first.word⟩ := by
  have apart : EndsRun front.reverse ∨ 0 < first.start := ends.imp_right found.start_pos
  obtain ⟨before, after, rfl, start, solid, left, right⟩ := found
  refine ⟨front ++ before, after, by simp, by rw [List.length_append, start], solid, ?_, right⟩
  by_cases ne : before = []
  · subst ne
    rw [List.append_nil]
    exact apart.resolve_right (by simp [start])
  · exact (endsRun_reverse_append ne front).2 left

/-- A run that begins behind the front of a text is one of the rest. -/
theorem IsRun.of_append_front {before after front : Text}
    (split : s = before ++ (word ++ after)) (solid : IsSolid word)
    (left : EndsRun (front ++ before).reverse) (right : EndsRun after) :
    IsRun s ⟨before.length, word⟩ := by
  refine ⟨before, after, split, rfl, solid, ?_, right⟩
  by_cases ne : before = []
  · simp [ne]
  · exact (endsRun_reverse_append ne front).1 left

/-- The runs behind a blank are those of what follows, one place further on. -/
theorem isRun_blank (blank : isAsciiBlank c = true) :
    IsRun (c :: s) run ↔ ∃ first, IsRun s first ∧ run = ⟨1 + first.start, first.word⟩ := by
  constructor
  · rintro ⟨before, after, split, start, solid, left, right⟩
    obtain ⟨start', word⟩ := run
    dsimp only at split start solid
    subst start
    cases before with
    | nil => exact absurd (split ▸ endsRun_cons.2 blank) (solid.not_endsRun after)
    | cons d before =>
      obtain ⟨rfl, behind⟩ := List.cons.inj split
      have left : EndsRun ([c] ++ before).reverse := left
      refine ⟨⟨before.length, word⟩, .of_append_front behind solid left right, ?_⟩
      rw [List.length_cons, Nat.add_comm]
  · rintro ⟨first, found, rfl⟩
    exact found.append_front [c] (.inl (endsRun_cons.2 blank))

/-- Behind a run come those of what follows it, as much further on as the run is long. -/
theorem isRun_run (solid : IsSolid word) (ends : EndsRun rest) :
    IsRun (word ++ rest) run ↔
      run = ⟨0, word⟩ ∨
        ∃ first, IsRun rest first ∧ run = ⟨word.length + first.start, first.word⟩ := by
  constructor
  · rintro ⟨before, after, split, start, inside, left, right⟩
    obtain ⟨start', word'⟩ := run
    dsimp only at split start inside
    subst start
    -- A run begins at the front, or behind the first run: inside of that one there is no blank.
    rcases List.append_eq_append_iff.1 split with ⟨gap, rfl, behind⟩ | ⟨gap, rfl, behind⟩
    · refine .inr ⟨_, .of_append_front behind inside left right, ?_⟩
      rw [List.length_append]
    · obtain rfl := eq_nil_of_endsRun_reverse left fun c mem =>
        solid.2 c (List.mem_append_left gap mem)
      have same := inside.takeWhile_append right
      rw [behind] at same
      exact .inl (by rw [← same, ← solid.takeWhile_append ends]; rfl)
  · rintro (rfl | ⟨first, found, rfl⟩)
    · exact ⟨[], rest, rfl, rfl, solid, endsRun_nil, ends⟩
    · exact found.append_front word (.inr ends)

/-- The recursion finds the runs of a text, moved by its starting place. -/
theorem mem_runsFrom_iff {start : Nat} :
    run ∈ runsFrom start s ↔ ∃ first, IsRun s first ∧ run = ⟨start + first.start, first.word⟩ := by
  induction s using text_induction generalizing start with
  | nil => simp [not_isRun_nil]
  | blank c s blank ih =>
    rw [runsFrom_blank blank, ih]
    constructor
    · rintro ⟨first, found, rfl⟩
      exact ⟨_, (isRun_blank blank).2 ⟨first, found, rfl⟩, by rw [Nat.add_assoc]⟩
    · rintro ⟨run, found, rfl⟩
      obtain ⟨first, inside, rfl⟩ := (isRun_blank blank).1 found
      exact ⟨first, inside, by rw [Nat.add_assoc]⟩
  | run word rest solid ends ih =>
    rw [runsFrom_run solid ends, List.mem_cons, ih]
    constructor
    · rintro (rfl | ⟨first, found, rfl⟩)
      · exact ⟨⟨0, word⟩, (isRun_run solid ends).2 (.inl rfl), rfl⟩
      · exact ⟨_, (isRun_run solid ends).2 (.inr ⟨first, found, rfl⟩), by rw [Nat.add_assoc]⟩
    · rintro ⟨run, found, rfl⟩
      rcases (isRun_run solid ends).1 found with rfl | ⟨first, inside, rfl⟩
      · exact .inl rfl
      · exact .inr ⟨first, inside, by rw [Nat.add_assoc]⟩

end IsRun

/-- The recursion finds just the longest stretches without a blank. -/
theorem mem_runs_iff {line : Text} {run : Run} : run ∈ runs line ↔ IsRun line run := by
  rw [runs, mem_runsFrom_iff]
  simp

/-- Runs are found from left to right, and between two of them stands a blank. -/
theorem pairwise_runsFrom (start : Nat) (s : Text) :
    (runsFrom start s).Pairwise fun run next => run.stop < next.start := by
  induction s using text_induction generalizing start with
  | nil => simp
  | blank c s blank ih =>
    rw [runsFrom_blank blank]
    exact ih _
  | run word rest solid ends ih =>
    rw [runsFrom_run solid ends, List.pairwise_cons]
    refine ⟨fun next mem => ?_, ih _⟩
    obtain ⟨first, found, rfl⟩ := mem_runsFrom_iff.1 mem
    have behind := found.start_pos ends
    rw [Run.stop]
    dsimp only
    omega

/-- The runs of a line stand one behind the other, each two with something between them. -/
theorem pairwise_runs (line : Text) : (runs line).Pairwise fun run next => run.stop < next.start :=
  pairwise_runsFrom 0 line

end CheckoutLint.Acronym
