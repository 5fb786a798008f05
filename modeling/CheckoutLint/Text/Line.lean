import CheckoutLint.Text.Basic

/-!
The lines of a text. A line feed ends a line; it is dropped together with one carriage return right
before it. What stands after the last line feed is a line too, unless it is empty, and keeps a
carriage return at its end.

Main statements:

* `Text.lines_append_newline`: a complete line in front of a text is the first line, and the rest of
  the lines are those of the text.
* `Text.not_mem_of_mem_lines`: no line holds a line feed.
-/

namespace CheckoutLint.Text

/-- The lines of a text, without their ends. -/
def lines : Text → List Text
  | [] => []
  | '\n' :: s => [] :: lines s
  | '\r' :: '\n' :: s => [] :: lines s
  | c :: s =>
    match lines s with
    | [] => [[c]]
    | line :: rest => (c :: line) :: rest

theorem lines_eq_nil_iff {s : Text} : lines s = [] ↔ s = [] := by
  fun_cases lines s <;> simp_all

theorem lines_cons_of_not_end {c : Char} {s : Text} (hn : c ≠ '\n')
    (hr : c = '\r' → s.head? ≠ some '\n') :
    lines (c :: s) = match lines s with
      | [] => [[c]]
      | line :: rest => (c :: line) :: rest := by
  rw [lines.eq_def]
  split <;> simp_all

/-- A character that can end no line belongs to the first one. -/
theorem lines_cons {c : Char} {s : Text} (hn : c ≠ '\n') (hr : c ≠ '\r') :
    lines (c :: s) = match lines s with
      | [] => [[c]]
      | line :: rest => (c :: line) :: rest :=
  lines_cons_of_not_end hn fun eq => absurd eq hr

/-- A line with neither a line feed nor a carriage return, ended by a line feed, is the first line.
-/
theorem lines_append_newline {line s : Text} (hn : '\n' ∉ line) (hr : '\r' ∉ line) :
    lines (line ++ '\n' :: s) = line :: lines s := by
  induction line with
  | nil => rfl
  | cons c line ih =>
    simp only [List.mem_cons, not_or] at hn hr
    rw [List.cons_append, lines_cons (Ne.symm hn.1) (Ne.symm hr.1), ih hn.2 hr.2]

/-- No line holds a line feed. -/
theorem not_mem_of_mem_lines {s line : Text} (h : line ∈ lines s) : '\n' ∉ line := by
  fun_induction lines s generalizing line with
  | case1 => simp at h
  | case2 s ih =>
    rcases List.mem_cons.1 h with rfl | h
    · simp
    · exact ih h
  | case3 s ih =>
    rcases List.mem_cons.1 h with rfl | h
    · simp
    · exact ih h
  | case4 c s hn _ eq _ =>
    simp at h
    subst h
    simpa using fun e => hn e.symm
  | case5 c s hn _ first rest eq ih =>
    rcases List.mem_cons.1 h with rfl | h
    · have := ih (eq ▸ List.mem_cons_self)
      simp [this]
      exact fun e => hn e.symm
    · exact ih (eq ▸ List.mem_cons_of_mem _ h)

end CheckoutLint.Text
