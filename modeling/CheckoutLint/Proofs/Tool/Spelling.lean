import CheckoutLint.Proofs.Pass.Selection
import CheckoutLint.Proofs.PathTable.Concealment

/-!
What the spell checker's output comes to. Each line that is not empty gives one warning, in order:
the line with the paths of the files in place of the temp paths that the substitution consumes, and
otherwise as it was. If those stand apart, no warning names a copy.

* `check_spelling`: the warnings of a check whose tool found something.
* `check_spelling_conceals`: what they give away.
-/

namespace CheckoutLint.Inspection

open PathTable

variable {σ : Type} {launch : Launcher σ} {inspection : Inspection} {program : Text}
  {state after : σ} {exit : Exit}

/-- The spell checker's warnings are its lines, empty ones left out, each restored. -/
theorem check_spelling (spelling : inspection.checker = .tool .spelling program)
    (files : inspection.accepted ≠ [])
    (launched : launch (Tool.spelling.command program inspection.tempPaths) state =
      (.ok exit, after)) (failed : exit.status ≠ 0) :
    inspection.check launch state =
      (.ok (((Text.lines exit.output).filter fun line => line ≠ []).map inspection.table.restore),
        after) := by
  have nonempty : (fun line : Text => !line.isEmpty) = fun line => decide (line ≠ []) := by
    funext line
    cases line <;> simp
  rw [check_of_failed spelling files launched failed, Tool.read, nonempty]

/-- If the paths of the files name no copies, and in each line of the output the temp paths that the
substitution consumes have on each side the end of the line or a character that no temp path has,
then a check gives one warning for each line that is not empty. The line is cut up by the
substitution, each temp path is replaced by the path of its file, every other character is left as
it was, and no temp path stands in the result. -/
theorem check_spelling_conceals (spelling : inspection.checker = .tool .spelling program)
    (files : inspection.accepted ≠ [])
    (launched : launch (Tool.spelling.command program inspection.tempPaths) state =
      (.ok exit, after)) (failed : exit.status ≠ 0)
    (paths : ∀ file ∈ inspection.accepted, Conceals inspection.accepted file.path)
    (apart : ∀ line ∈ Text.lines exit.output, ∃ pieces,
      CutUp inspection.accepted line pieces ∧ IsApart inspection.accepted pieces) :
    ∃ warnings, inspection.check launch state = (.ok warnings, after) ∧
      List.Forall₂ (fun line warning =>
          (∃ pieces, CutUp inspection.accepted line pieces ∧
            line = pieces.flatMap Piece.consumed ∧ warning = pieces.flatMap Piece.written) ∧
          Conceals inspection.accepted warning)
        ((Text.lines exit.output).filter fun line => line ≠ []) warnings := by
  refine ⟨_, check_spelling spelling files launched failed, ?_⟩
  rw [List.forall₂_map_right_iff, List.forall₂_same]
  intro line mem
  obtain ⟨pieces, cut, apart⟩ := apart line (List.mem_filter.1 mem).1
  have restored : inspection.table.restore line = pieces.flatMap Piece.written :=
    (isArranged_ofCandidates inspection.accepted).restore_eq_written cut
  refine ⟨⟨pieces, cut, cut.consumed_eq.symm, restored⟩, ?_⟩
  rw [restored]
  exact cut.conceals_written apart paths

/-! ## A page and another whose copy's name goes on -/

/-- A page at the root. -/
def shortPage : Candidate := Candidate.ofPaths "/t/0-TODO".toList "TODO".toList

/-- A page whose temp path goes on where that of the other ends. -/
def longPage : Candidate := Candidate.ofPaths "/t/0-TODO.md".toList "d/TODO.md".toList

/-- The spell checker at work on the two pages. -/
def nestedPages : Inspection := ⟨.tool .spelling "misspell".toList, [shortPage, longPage]⟩

/-- A line with both temp paths. -/
def nestedLine : Text := "/t/0-TODO.md: (/t/0-TODO)".toList

/-- What the spell checker says of the two pages: an empty line, and that line. -/
def nestedExit : Exit := ⟨2, '\n' :: nestedLine⟩

/-- A tool that says this; it counts how often it is started. -/
def countingTool : Launcher Nat := fun _ launches => (.ok nestedExit, launches + 1)

/-- A line with two temp paths of which one begins the other. -/
theorem cutUp_nestedLine :
    CutUp nestedPages.accepted nestedLine
      [.taken longPage.tempPath longPage.path, .copied ':', .copied ' ', .copied '(',
        .taken shortPage.tempPath shortPage.path, .copied ')'] := by
  have distinct : (nestedPages.accepted.map Candidate.tempPath).Nodup := by decide
  have short := isLastPath_of_nodup distinct (List.mem_cons_self : shortPage ∈ _)
  have long := isLastPath_of_nodup distinct (by decide : longPage ∈ nestedPages.accepted)
  have inner : CutUp nestedPages.accepted (shortPage.tempPath ++ [')'])
      [.taken shortPage.tempPath shortPage.path, .copied ')'] :=
    .path ⟨by decide, by decide, by decide, by decide⟩ short (.char (by decide) .done)
  have rest : CutUp nestedPages.accepted (":".toList ++ " (".toList ++ shortPage.tempPath ++ [')'])
      [.copied ':', .copied ' ', .copied '(', .taken shortPage.tempPath shortPage.path,
        .copied ')'] :=
    .char (by decide) (.char (by decide) (.char (by decide) inner))
  exact .path ⟨by decide, by decide, by decide, by decide⟩ long rest

/-- The line is restored at both places, and nothing of the temp paths is left. -/
theorem check_nestedPages :
    (∀ file ∈ nestedPages.accepted, Conceals nestedPages.accepted file.path) ∧
      (∀ line ∈ Text.lines nestedExit.output, ∃ pieces,
        CutUp nestedPages.accepted line pieces ∧ IsApart nestedPages.accepted pieces) ∧
      nestedPages.check countingTool 0 = (.ok ["d/TODO.md: (TODO)".toList], 1) ∧
      Conceals nestedPages.accepted "d/TODO.md: (TODO)".toList := by
  have paths : ∀ file ∈ nestedPages.accepted, Conceals nestedPages.accepted file.path := by
    decide
  have lines : Text.lines nestedExit.output = [[], nestedLine] := by decide
  have apart : ∀ line ∈ Text.lines nestedExit.output, ∃ pieces,
      CutUp nestedPages.accepted line pieces ∧ IsApart nestedPages.accepted pieces := by
    rw [lines]
    simp only [List.forall_mem_cons, List.not_mem_nil, false_implies, implies_true, and_true]
    exact ⟨⟨[], .done, by decide⟩, ⟨_, cutUp_nestedLine, by decide⟩⟩
  have launched : countingTool (Tool.spelling.command "misspell".toList nestedPages.tempPaths) 0 =
      (.ok nestedExit, 1) := rfl
  obtain ⟨warnings, checked, each⟩ := check_spelling_conceals (rfl : nestedPages.checker = _)
    (List.cons_ne_nil _ _) launched (by decide) paths apart
  have shown : nestedPages.check countingTool 0 = (.ok ["d/TODO.md: (TODO)".toList], 1) := by
    cbv
  obtain rfl : ["d/TODO.md: (TODO)".toList] = warnings :=
    Except.ok.inj (congrArg Prod.fst (shown.symm.trans checked))
  have kept : (Text.lines nestedExit.output).filter (fun line => line ≠ []) = [nestedLine] := by
    rw [lines]
    decide
  rw [kept] at each
  cases each with
  | cons line _ => exact ⟨paths, apart, shown, line.2⟩

end CheckoutLint.Inspection
