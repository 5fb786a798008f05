import CheckoutLint.Utility.Quantity

/-!
The utilities that put lines in order and that drop or count lines that are repeated.

Main statements:

* `Sorting.runs_flatten`: parting lines into runs of the same ones keeps all lines in their order.
* `Sorting.eq_replicate_of_mem_runs`: each run repeats one line.
-/

namespace CheckoutLint.Utility.Sorting

/-! ## Order -/

/-- The whole number at the front of a line; a line without one counts as zero. -/
def number (line : Text) : Int :=
  let text := line.dropWhile fun c => c = ' ' || c = '\t'
  match text with
  | '-' :: digits => -(Quantity.ofDigits (digits.takeWhile Char.isDigit) : Int)
  | digits => Quantity.ofDigits (digits.takeWhile Char.isDigit)

/-- How lines are put in order. -/
structure Order where
  byNumber : Bool
  isReverse : Bool
  /-- Whether only one of lines that are the same is kept. -/
  isUnique : Bool

/-- Whether a line may stand in front of another: by their numbers if so asked, and those of one
number by their characters unless only one of them is kept. -/
def Order.isAtMost (order : Order) (line other : Text) : Bool :=
  let (line, other) := if order.isReverse then (other, line) else (line, other)
  if order.byNumber && number line != number other then number line < number other
  else order.byNumber && order.isUnique || Text.isAtMost line other

/-- Whether lines are the same. -/
def Order.isSame (order : Order) (line other : Text) : Bool :=
  if order.byNumber then number line == number other else line == other

/-- Lines in order. -/
def Order.sorted (order : Order) (lines : List Text) : List Text :=
  let sorted := lines.mergeSort order.isAtMost
  if order.isUnique then sorted.eraseDupsBy order.isSame else sorted

/-- Puts lines in order. -/
def sort : Work Unit := do
  inTrouble 2
  let manner : Options.Manner := { flags := "nru", status := 2 }
  let taken ← manner.ofCall
  let mut lines : List Text := []
  for path in pathsOr taken.operands do
    match ← readInput path with
    | .ok text => lines := lines ++ linesOf text
    | .error cause =>
      fail 2 ("cannot read: ".toList ++ Shown.name path ++ ": ".toList ++ cause.reason)
  needEnd
  let order : Order := ⟨taken.has 'n', taken.has 'r', taken.has 'u'⟩
  put ((order.sorted lines).flatMap fun line => line ++ ['\n'])

/-! ## Repeated lines -/

/-- Lines in runs of neighbours that are the same. -/
def runs : List Text → List (List Text)
  | [] => []
  | line :: lines =>
    match runs lines with
    | (first :: run) :: others =>
      if line = first then (line :: first :: run) :: others
      else [line] :: (first :: run) :: others
    | others => [line] :: others

/-- Runs of equal lines are the lines, cut up. -/
theorem runs_flatten (lines : List Text) : (runs lines).flatten = lines := by
  induction lines with
  | nil => rfl
  | cons line lines ih =>
    rw [runs]
    split
    · rename_i first run others eq
      rw [eq] at ih
      split <;> simp [← ih]
    · simp [ih]

/-- A run holds one line, so many times. -/
theorem eq_replicate_of_mem_runs {lines run : List Text} (mem : run ∈ runs lines) :
    ∃ line count, run = List.replicate (count + 1) line := by
  induction lines generalizing run with
  | nil => simp [runs] at mem
  | cons line lines ih =>
    rw [runs] at mem
    split at mem
    · rename_i first held others eq
      rw [eq] at ih
      split at mem
      · rename_i same
        subst same
        rcases List.mem_cons.1 mem with rfl | mem
        · obtain ⟨other, count, whole⟩ := ih List.mem_cons_self
          obtain rfl : line = other := (List.cons.inj whole).1
          exact ⟨line, count + 1, congrArg (line :: ·) whole⟩
        · exact ih (List.mem_cons_of_mem _ mem)
      · rcases List.mem_cons.1 mem with rfl | mem
        · exact ⟨line, 0, rfl⟩
        · exact ih mem
    · rcases List.mem_cons.1 mem with rfl | mem
      · exact ⟨line, 0, rfl⟩
      · exact ih mem

/-- Writes lines without those that repeat the one before them. -/
def uniq : Work Unit := do
  let manner : Options.Manner := { flags := "cdu" }
  let taken ← manner.ofCall
  match ← readInput (taken.operands.headD ['-']) with
  | .error cause =>
    fail 1 (Shown.name (taken.operands.headD ['-']) ++ ": ".toList ++ cause.reason)
  | .ok text =>
    let kept := (runs (linesOf text)).filter fun run =>
      !(taken.has 'd' && run.length = 1) && !(taken.has 'u' && 1 < run.length)
    put (kept.flatMap fun run =>
      let count := if taken.has 'c' then Quantity.padded 7 run.length ++ [' '] else []
      count ++ run.headD [] ++ ['\n'])

end CheckoutLint.Utility.Sorting
