import CheckoutLint.Proofs.LinkReport.RoundTrip

/-!
What each line of a report is to its reader. By its own text a line is an error, a header or
nothing; but the line behind an error is the reason for it, whatever it looks like, and so decides
what all the lines below it are. Once every line has its role, a report is read off the lines by
their numbers, with no memory of what was read before.

* `roleAt_append`: the roles of lines do not depend on lines above that end with no error.
* `findings_append`: neither does what they report, but for the page that they are about.
* `findings_eq_filterMap`: the broken links that lines report, by their numbers.
* `warnings_eq_reading`: the warnings for a report, whatever the report is.
-/

namespace CheckoutLint

namespace LinkReport

/-! ## Roles -/

/-- What a line of a report is to its reader. -/
inductive Role where
  | error
  | reason
  | header
  | skipped
  deriving DecidableEq, Repr

/-- What a line is by its own text. -/
def Role.ofLine (line : Text) : Role :=
  if line.head? = some '\t' ∧ "ERROR".toList <:+: line then .error
  else if line ≠ [] ∧ line.head? ≠ some '\t' then .header
  else .skipped

/-- What the line with this number is, counted from zero: the reason if the line before it is an
error, and else what it is by its own text. Behind the last line there are empty ones. -/
def roleAt (lines : List Text) : Nat → Role
  | 0 => Role.ofLine (lines.getD 0 [])
  | number + 1 =>
    if roleAt lines number = .error then .reason else Role.ofLine (lines.getD (number + 1) [])

/-- The headers above the line with this number. -/
def headersAbove (lines : List Text) (number : Nat) : List Text :=
  (List.range number).filterMap fun above =>
    if roleAt lines above = .header then lines[above]? else none

/-- The page that the line with this number is about: the last header above it names it, and if
there is none it is the page given. -/
def pageAt (table : PathTable) (page : Text) (lines : List Text) (number : Nat) : Text :=
  (headersAbove lines number).getLast?.elim page table.restore

/-- The page that the lines below this one are about, if it is no error and about the page given. -/
def pageBelow (table : PathTable) (page line : Text) : Text :=
  if isHeader line then table.restore line else page

/-- The broken link that the line with this number reports: the line is an error, there is a line
behind it, and what that says, trimmed, says something of the link. -/
def linkAt? (table : PathTable) (page : Text) (lines : List Text) (number : Nat) :
    Option BrokenLink :=
  if roleAt lines number = .error then
    match lines[number]?, lines[number + 1]? with
    | some line, some reason =>
      if IsTelling (Text.trim reason) then
        some ⟨pageAt table page lines number,
          line.dropWhile fun c => c ∈ ['\t', ' ', 'E', 'R', 'O'], Text.trim reason⟩
      else none
    | _, _ => none
  else none

/-- What the line with this number gives to say, in the words of a warning. -/
def warningAt? (table : PathTable) (lines : List Text) (number : Nat) : Option Text :=
  (linkAt? table [] lines number).map fun link =>
    link.page ++ ": ".toList ++ link.url ++ ": ".toList ++ link.detail

/-- Lines whose last one is an error: it waits for its reason. -/
def EndsOnError (lines : List Text) : Prop := roleAt lines (lines.length - 1) = .error

instance (lines : List Text) : Decidable (EndsOnError lines) :=
  inferInstanceAs (Decidable (_ = _))

variable {table : PathTable} {page line reason : Text} {rest : List Text}

/-- A line without an error in front of it is an error just if it has the mark. -/
theorem Role.ofLine_eq_error_iff : Role.ofLine line = .error ↔ isError line = true := by
  rw [isError, isIndented, Bool.and_eq_true, decide_eq_true_eq, Text.occursIn_iff, Role.ofLine]
  split
  · next error => exact iff_of_true rfl error
  · next other =>
    refine iff_of_false ?_ other
    split <;> simp

/-- A line without an error in front of it names a page just if it begins so. -/
theorem Role.ofLine_eq_header_iff : Role.ofLine line = .header ↔ isHeader line = true := by
  have header : isHeader line = true ↔ line ≠ [] ∧ line.head? ≠ some '\t' := by
    simp [isHeader, isIndented]
  rw [header, Role.ofLine]
  split
  · next error => exact iff_of_false (by simp) fun header => header.2 error.1
  · split
    · next header => exact iff_of_true rfl header
    · next other => exact iff_of_false (by simp) other

/-! ## Lines by their roles -/

/-- Lines are made of lines that are no error, of errors with their reasons, and at most one error
without a reason at the end. -/
theorem lines_induction {motive : List Text → Prop} (nil : motive [])
    (calm : ∀ line rest, isError line = false → motive rest → motive (line :: rest))
    (alone : ∀ line, isError line = true → motive [line])
    (answered : ∀ line reason rest, isError line = true → motive rest →
      motive (line :: reason :: rest)) : ∀ lines, motive lines
  | [] => nil
  | [line] =>
    match error : isError line with
    | false => calm line [] error nil
    | true => alone line error
  | line :: reason :: rest =>
    match error : isError line with
    | false => calm line _ error (lines_induction nil calm alone answered (reason :: rest))
    | true => answered line reason rest error (lines_induction nil calm alone answered rest)

theorem isError_eq_false_of_isHeader (header : isHeader line = true) : isError line = false := by
  rw [Bool.eq_false_iff]
  intro error
  rw [isHeader_eq_false_of_isError error] at header
  contradiction

theorem Role.ofLine_ne_error (calm : isError line = false) : Role.ofLine line ≠ .error := by
  rw [Ne, Role.ofLine_eq_error_iff, calm]
  exact Bool.false_ne_true

/-- Behind a line that is no error the roles are those of the lines that follow. -/
theorem roleAt_cons (calm : isError line = false) (number : Nat) :
    roleAt (line :: rest) (number + 1) = roleAt rest number := by
  induction number with
  | zero =>
    rw [roleAt]
    exact if_neg (Role.ofLine_ne_error calm)
  | succ number ih =>
    rw [roleAt, ih, roleAt]
    rfl

/-- The line behind an error is its reason. -/
theorem roleAt_one (error : isError line = true) : roleAt (line :: rest) 1 = .reason := by
  rw [roleAt]
  exact if_pos (Role.ofLine_eq_error_iff.2 error)

/-- Behind an error and its reason the roles are those of the lines that follow. -/
theorem roleAt_answered (error : isError line = true) (number : Nat) :
    roleAt (line :: reason :: rest) (number + 2) = roleAt rest number := by
  induction number with
  | zero => exact if_neg (by simp [roleAt_one error])
  | succ number ih =>
    rw [roleAt, ih, roleAt]
    rfl

/-- The role of a line does not depend on the lines below it. -/
theorem roleAt_append_left {first : List Text} (second : List Text) {number : Nat}
    (inside : number < first.length) : roleAt (first ++ second) number = roleAt first number := by
  induction number with
  | zero => rw [roleAt, roleAt, List.getD_append _ _ _ _ inside]
  | succ number ih =>
    rw [roleAt, roleAt, ih (Nat.lt_of_succ_lt inside), List.getD_append _ _ _ _ inside]

/-! ## Lines that end with no error -/

theorem not_endsOnError_nil : ¬ EndsOnError [] := by decide

theorem endsOnError_alone (error : isError line = true) : EndsOnError [line] :=
  Role.ofLine_eq_error_iff.2 error

/-- Whether an error is left open does not depend on a line in front that is none. -/
theorem endsOnError_cons_iff (calm : isError line = false) :
    EndsOnError (line :: rest) ↔ EndsOnError rest := by
  cases rest with
  | nil => exact iff_of_false (Role.ofLine_ne_error calm) not_endsOnError_nil
  | cons next rest =>
    rw [EndsOnError, EndsOnError, List.length_cons, List.length_cons, Nat.add_sub_cancel,
      roleAt_cons calm, Nat.add_sub_cancel]

/-- Nor does it depend on an error in front that has its reason. -/
theorem endsOnError_answered_iff (error : isError line = true) :
    EndsOnError (line :: reason :: rest) ↔ EndsOnError rest := by
  cases rest with
  | nil =>
    refine iff_of_false ?_ not_endsOnError_nil
    rw [EndsOnError, List.length_cons, Nat.add_sub_cancel, List.length_singleton,
      roleAt_one error]
    simp
  | cons next rest =>
    rw [EndsOnError, EndsOnError, List.length_cons, List.length_cons, List.length_cons,
      Nat.add_sub_cancel, roleAt_answered error, Nat.add_sub_cancel]

/-- The role of a line does not depend on lines above that end with no error. -/
theorem roleAt_append {first : List Text} (answered : ¬ EndsOnError first) (second : List Text)
    (number : Nat) : roleAt (first ++ second) (first.length + number) = roleAt second number := by
  induction first using lines_induction with
  | nil => rw [List.nil_append, List.length_nil, Nat.zero_add]
  | calm line rest calm ih =>
    rw [endsOnError_cons_iff calm] at answered
    rw [List.cons_append, List.length_cons, Nat.add_right_comm, roleAt_cons calm, ih answered]
  | alone line error => exact absurd (endsOnError_alone error) answered
  | answered line reason rest error ih =>
    rw [endsOnError_answered_iff error] at answered
    rw [List.cons_append, List.cons_append, List.length_cons, List.length_cons,
      Nat.add_right_comm _ 1 number, Nat.add_right_comm _ 1 number, roleAt_answered error,
      ih answered]

/-- Behind lines that leave no error open only the further ones count. -/
theorem endsOnError_append_iff {first : List Text} (answered : ¬ EndsOnError first)
    (second : List Text) : EndsOnError (first ++ second) ↔ EndsOnError second := by
  cases second with
  | nil =>
    rw [List.append_nil]
    exact iff_of_false answered not_endsOnError_nil
  | cons line second =>
    rw [EndsOnError, EndsOnError, List.length_append, List.length_cons, Nat.add_sub_cancel,
      ← Nat.add_assoc, Nat.add_sub_cancel, roleAt_append answered]

/-! ## Pages -/

theorem filterMap_range_succ {α : Type} (pick : Nat → Option α) (bound : Nat) :
    (List.range (bound + 1)).filterMap pick =
      (pick 0).toList ++ (List.range bound).filterMap fun number => pick (number + 1) := by
  rw [List.range_succ_eq_map, List.filterMap_cons, List.filterMap_map]
  cases pick 0 <;> rfl

/-- A line at the front that names a page is above all others. -/
theorem headersAbove_cons (calm : isError line = false) (number : Nat) :
    headersAbove (line :: rest) (number + 1) =
      (if isHeader line then [line] else []) ++ headersAbove rest number := by
  rw [headersAbove, filterMap_range_succ]
  congr 1
  · simp only [roleAt, List.getD_cons_zero, Role.ofLine_eq_header_iff]
    split <;> rfl
  · refine List.filterMap_congr fun above _ => ?_
    rw [roleAt_cons calm, List.getElem?_cons_succ]

theorem headersAbove_answered (error : isError line = true) (number : Nat) :
    headersAbove (line :: reason :: rest) (number + 2) = headersAbove rest number := by
  have first : roleAt (line :: reason :: rest) 0 = .error := Role.ofLine_eq_error_iff.2 error
  have second : roleAt (line :: reason :: rest) 1 = .reason := roleAt_one error
  rw [headersAbove, filterMap_range_succ, filterMap_range_succ, first, second]
  refine List.filterMap_congr fun above _ => ?_
  rw [roleAt_answered error, List.getElem?_cons_succ, List.getElem?_cons_succ]

theorem pageAt_zero (lines : List Text) : pageAt table page lines 0 = page := rfl

/-- A line at the front that is no error may change the page. -/
theorem pageAt_calm (calm : isError line = false) (number : Nat) :
    pageAt table page (line :: rest) (number + 1) =
      pageAt table (pageBelow table page line) rest number := by
  rw [pageAt, headersAbove_cons calm, pageAt, pageBelow]
  cases isHeader line with
  | true =>
    rw [if_pos rfl, if_pos rfl, List.singleton_append, List.getLast?_cons]
    cases (headersAbove rest number).getLast? <;> rfl
  | false => rfl

theorem pageAt_answered (error : isError line = true) (number : Nat) :
    pageAt table page (line :: reason :: rest) (number + 2) = pageAt table page rest number := by
  rw [pageAt, headersAbove_answered error, pageAt]

/-! ## What is read -/

/-- A line on its own reports nothing: if it is an error, it has no reason. -/
theorem findings_singleton (line : Text) : findings table page [line] = [] := by
  rw [findings]
  split
  · rfl
  · split <;> rfl

theorem findings_calm (calm : isError line = false) :
    findings table page (line :: rest) = findings table (pageBelow table page line) rest := by
  cases header : isHeader line with
  | true => rw [findings_of_header header, pageBelow, if_pos header]
  | false => rw [findings_of_skipped header calm, pageBelow, header, if_neg Bool.false_ne_true]

/-- Lines above that end with no error matter to the lines below by the page alone that they name
last. -/
theorem findings_append {first : List Text} (answered : ¬ EndsOnError first) (second : List Text) :
    findings table page (first ++ second) =
      findings table page first ++
        findings table (pageAt table page first first.length) second := by
  -- For any page, as a header gives the lines below it one of their own.
  induction first using lines_induction generalizing page with
  | nil => rfl
  | calm line rest calm ih =>
    rw [endsOnError_cons_iff calm] at answered
    rw [List.cons_append, findings_calm calm, findings_calm calm, ih answered, List.length_cons,
      pageAt_calm calm]
  | alone line error => exact absurd (endsOnError_alone error) answered
  | answered line reason rest error ih =>
    rw [endsOnError_answered_iff error] at answered
    rw [List.cons_append, List.cons_append, findings_of_error error, findings_of_error error,
      ih answered, List.length_cons, List.length_cons, pageAt_answered error, List.append_assoc]

/-- An error at the end changes nothing of what is read above it. -/
theorem findings_concat {above : List Text} {last : Text}
    (error : roleAt (above ++ [last]) above.length = .error) :
    findings table page (above ++ [last]) = findings table page above := by
  -- If the lines above ended on an error, the last line would be the reason for it.
  have answered : ¬ EndsOnError above := by
    intro unanswered
    cases above with
    | nil => exact not_endsOnError_nil unanswered
    | cons line rest =>
      rw [EndsOnError, List.length_cons, Nat.add_sub_cancel] at unanswered
      rw [List.length_cons, roleAt, roleAt_append_left [last] (Nat.lt_succ_self rest.length),
        unanswered] at error
      simp at error
  rw [findings_append answered, findings_singleton, List.append_nil]

/-- A link takes two lines: an error, and a reason. -/
theorem two_mul_length_findings_le (table : PathTable) (page : Text) (lines : List Text) :
    2 * (findings table page lines).length ≤ lines.length := by
  induction lines using lines_induction generalizing page with
  | nil => exact Nat.le_refl 0
  | calm line rest calm ih =>
    rw [findings_calm calm]
    exact Nat.le_succ_of_le (ih _)
  | alone line error =>
    rw [findings_singleton]
    exact Nat.zero_le _
  | answered line reason rest error ih =>
    have below := ih page
    rw [findings_of_error error, List.length_append, List.length_cons, List.length_cons]
    split
    · rw [List.length_nil]
      omega
    · rw [List.length_singleton]
      omega

/-! ## What is read, by numbers -/

/-- Only at errors there are links. -/
theorem linkAt?_of_ne_error {lines : List Text} {number : Nat}
    (other : roleAt lines number ≠ .error) : linkAt? table page lines number = none :=
  if_neg other

theorem linkAt?_calm (calm : isError line = false) (number : Nat) :
    linkAt? table page (line :: rest) (number + 1) =
      linkAt? table (pageBelow table page line) rest number := by
  simp only [linkAt?, roleAt_cons calm, pageAt_calm calm, List.getElem?_cons_succ]

theorem linkAt?_alone (error : isError line = true) : linkAt? table page [line] 0 = none := by
  have own : roleAt [line] 0 = .error := Role.ofLine_eq_error_iff.2 error
  rw [linkAt?, if_pos own]
  rfl

/-- An error with its reason is a link, unless the reason is ignored. -/
theorem linkAt?_zero (error : isError line = true) :
    (linkAt? table page (line :: reason :: rest) 0).toList =
      if isIgnored (Text.trim reason) then [] else [⟨page, urlOf line, Text.trim reason⟩] := by
  have own : roleAt (line :: reason :: rest) 0 = .error := Role.ofLine_eq_error_iff.2 error
  rw [linkAt?, if_pos own, urlOf_eq]
  by_cases telling : IsTelling (Text.trim reason)
  · simp [telling, isIgnored_eq_false_iff.2 telling, pageAt_zero]
  · simp [telling, isIgnored_eq_true_iff.2 telling]

theorem linkAt?_answered (error : isError line = true) (number : Nat) :
    linkAt? table page (line :: reason :: rest) (number + 2) = linkAt? table page rest number := by
  simp only [linkAt?, roleAt_answered error, pageAt_answered error, List.getElem?_cons_succ]

/-- The broken links that lines report are those that the lines report by their numbers. -/
theorem findings_eq_filterMap (table : PathTable) (page : Text) (lines : List Text) :
    findings table page lines =
      (List.range lines.length).filterMap (linkAt? table page lines) := by
  induction lines using lines_induction generalizing page with
  | nil => rfl
  | calm line rest calm ih =>
    have first : roleAt (line :: rest) 0 ≠ .error := Role.ofLine_ne_error calm
    rw [findings_calm calm, ih, List.length_cons, filterMap_range_succ, linkAt?_of_ne_error first]
    simp only [linkAt?_calm calm]
    rfl
  | alone line error =>
    rw [findings_singleton, List.length_singleton, filterMap_range_succ, linkAt?_alone error]
    rfl
  | answered line reason rest error ih =>
    have behind : roleAt (line :: reason :: rest) 1 ≠ .error := by simp [roleAt_one error]
    rw [List.length_cons, List.length_cons, filterMap_range_succ, filterMap_range_succ,
      linkAt?_zero error, linkAt?_of_ne_error behind, findings_of_error error, ih]
    simp only [linkAt?_answered error]
    rfl

/-- A report, whatever it is, is read line by line: each error that has a line behind it gives one
warning, if that line says something of the link, and nothing else gives any. An error at the end
gives none and leaves those of the lines above as they are, and each warning takes two lines. -/
theorem warnings_eq_reading (table : PathTable) (report : Text) :
    warnings table report =
        (List.range (Text.lines report).length).filterMap (warningAt? table (Text.lines report)) ∧
      (∀ above last, Text.lines report = Text.lines above ++ [last] →
        roleAt (Text.lines report) (Text.lines above).length = .error →
          warnings table report = warnings table above) ∧
      2 * (warnings table report).length ≤ (Text.lines report).length := by
  refine ⟨?_, ?_, ?_⟩
  · rw [warnings, read, findings_eq_filterMap, List.map_filterMap]
    rfl
  · intro above last split error
    rw [split] at error
    rw [warnings, read, split, findings_concat error]
    rfl
  · rw [warnings, List.length_map]
    exact two_mul_length_findings_le table [] (Text.lines report)

/-! ## Lines that look like others -/

/-- A page whose copy is named by a header. -/
def disguisedPage : Candidate := Candidate.ofPaths "/t/0".toList "TODO".toList

/-- A report with an error above the first header, a reason that looks like a header, one that looks
like an error, and one that says nothing. -/
def disguisedReport : Text :=
  "\tERROR\tE.test\n/t/0\n\n/t/0\n\tERROR b\n\tERROR\tc\n\t\td\n\tERROR\te\n Timeout\n".toList

/-- The same report with an error at its end. -/
def openReport : Text := disguisedReport ++ "\tERROR\tOK\n".toList

theorem restore_disguisedPage :
    (PathTable.ofCandidates [disguisedPage]).restore disguisedPage.tempPath = "TODO".toList :=
  (PathTable.isArranged_ofCandidates _).restore_temp (by decide)
    (PathTable.isLastPath_of_nodup (by decide) List.mem_cons_self)

theorem warnings_disguisedReport :
    warnings (PathTable.ofCandidates [disguisedPage]) disguisedReport =
      [": .test: /t/0".toList, "TODO: b: ERROR\tc".toList] := by
  have lines : Text.lines disguisedReport =
      ["\tERROR\tE.test".toList, "/t/0".toList, [], disguisedPage.tempPath, "\tERROR b".toList,
        "\tERROR\tc".toList, "\t\td".toList, "\tERROR\te".toList, " Timeout".toList] := by
    decide
  rw [warnings, read, lines, findings_of_error (by decide), findings_of_skipped rfl rfl,
    findings_of_header (by decide), restore_disguisedPage]
  decide

/-- An error on the last line has no reason and makes no warning. -/
theorem warnings_openReport :
    Text.lines openReport = Text.lines disguisedReport ++ ["\tERROR\tOK".toList] ∧
      roleAt (Text.lines openReport) (Text.lines disguisedReport).length = .error ∧
      (List.range (Text.lines openReport).length).filterMap
          (warningAt? (PathTable.ofCandidates [disguisedPage]) (Text.lines openReport)) =
        [": .test: /t/0".toList, "TODO: b: ERROR\tc".toList] := by
  have split : Text.lines openReport =
      Text.lines disguisedReport ++ ["\tERROR\tOK".toList] := by
    decide
  have error : roleAt (Text.lines openReport) (Text.lines disguisedReport).length = .error := by
    decide
  obtain ⟨reading, last, -⟩ :=
    warnings_eq_reading (PathTable.ofCandidates [disguisedPage]) openReport
  exact ⟨split, error,
    reading.symm.trans ((last _ _ split error).trans warnings_disguisedReport)⟩

end LinkReport

end CheckoutLint
