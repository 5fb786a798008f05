import CheckoutLint.CommandLine.Run
import CheckoutLint.Proofs.Report.Agreement
import Mathlib

/-!
Checkers that are named on the command line. Names are taken from the arguments in their order. The
first that no checker has ends the run before the checkout is looked at; else order and repetition
of the names do not matter.

* `exists_clauses`: which arguments can be used, and which names they give.
* `select_unknown`, `select_known`: a selection by names.
* `plan_eq_of_same_names`: names in another order make the same plan.
* `run_selected`: what comes of a run.
-/

namespace CheckoutLint

/-! ## Names among the arguments -/

namespace Options

/-- An option with its value, as it is written: the value is attached, or an argument of its own. -/
structure Clause where
  setting : Setting
  value : Text
  attached : Bool

/-- A value that is not attached must not look like an option. -/
def Clause.Fits (clause : Clause) : Prop := clause.attached = true ∨ isValue clause.value = true

/-- The arguments of a clause. -/
def Clause.arguments (clause : Clause) : List Text :=
  let option := "--".toList ++ clause.setting.name
  if clause.attached then [option ++ '=' :: clause.value] else [option, clause.value]

/-- The checkers that clauses name, in order. -/
def named (clauses : List Clause) : List Text :=
  (clauses.filter fun clause => clause.setting = .only).map Clause.value

/-- `Written clauses arguments`: the arguments are those of the clauses, with a mark behind them or
without. -/
def Written (clauses : List Clause) (arguments : List Text) : Prop :=
  (∀ clause ∈ clauses, clause.Fits) ∧ ∃ mark, (mark = [] ∨ mark = ["--".toList]) ∧
    arguments = clauses.flatMap Clause.arguments ++ mark

section Clauses

variable {options result : Options} {setting : Setting} {clause : Clause} {clauses : List Clause}
  {argument body value : Text} {rest arguments : List Text}

theorem ofName?_eq_some {name : Text} (h : Setting.ofName? name = some setting) :
    name = setting.name := by
  have same := List.find?_some h
  exact (eq_of_beq same).symm

theorem dropWhile_eq_cons {c : Char} (h : body.dropWhile (· ≠ '=') = c :: value) : c = '=' := by
  have head := List.head?_dropWhile_not (fun c => decide (c ≠ '=')) body
  rw [h] at head
  simpa using head

theorem readLong_setting {attached : Option Text}
    (h : readLong argument body = .setting setting attached) :
    body = setting.name ++ (attached.map (List.cons '=')).getD [] := by
  have cut := List.takeWhile_append_dropWhile (p := fun c => decide (c ≠ '=')) (l := body)
  rw [readLong] at h
  split at h
  · split at h
    · cases h
    · split at h <;> cases h
  · split at h
    · rename_i found
      obtain ⟨rfl, rfl⟩ := Argument.setting.inj h
      rw [← ofName?_eq_some found]
      cases behind : body.dropWhile (· ≠ '=') with
      | nil =>
        rw [behind] at cut
        exact cut.symm
      | cons c value =>
        rw [behind, dropWhile_eq_cons behind] at cut
        exact cut.symm
    · cases h

theorem readLong_ne_endMark (argument body : Text) : readLong argument body ≠ .endMark := by
  fun_cases readLong argument body <;> nofun

/-- An argument that is an option has its name behind two dashes, and perhaps a value behind a sign.
-/
theorem readArgument_setting {attached : Option Text}
    (h : readArgument argument = .setting setting attached) :
    argument = "--".toList ++ setting.name ++ (attached.map (List.cons '=')).getD [] := by
  rw [readArgument.eq_def] at h
  split at h
  case h_2 body =>
    rw [List.append_assoc, ← readLong_setting h]
    rfl
  all_goals cases h

theorem readArgument_option (setting : Setting) :
    readArgument ("--".toList ++ setting.name) = .setting setting none := by
  cases setting <;> rfl

theorem readArgument_attached (setting : Setting) (value : Text) :
    readArgument ("--".toList ++ setting.name ++ '=' :: value) = .setting setting (some value) := by
  cases setting <;> rfl

/-- An option that is written well is taken before the arguments behind it are read. -/
theorem parse_clause (fits : clause.Fits) (options : Options) (rest : List Text) :
    options.parse (clause.arguments ++ rest) =
      match options.add clause.setting clause.value with
      | .error misuse => .error (.misuse misuse)
      | .ok options => options.parse rest := by
  obtain ⟨setting, value, attached⟩ := clause
  cases attached with
  | true =>
    have argument : Clause.arguments ⟨setting, value, true⟩ =
        ["--".toList ++ setting.name ++ '=' :: value] := rfl
    rw [argument, List.singleton_append, parse.eq_def]
    cases added : options.add setting value <;> simp only [readArgument_attached, added]
  | false =>
    have pair : Clause.arguments ⟨setting, value, false⟩ =
        ["--".toList ++ setting.name, value] := rfl
    have plain : isValue value = true := fits.resolve_left Bool.false_ne_true
    rw [pair, List.cons_append, List.singleton_append, parse.eq_def]
    cases added : options.add setting value <;>
      simp only [readArgument_option, plain, if_true, added]

/-- Every list of names can be written. -/
theorem parse_names (names : List Text) (options : Options) :
    options.parse (names.map fun name => "--only=".toList ++ name) =
      .ok { options with only := options.only ++ names } := by
  induction names generalizing options with
  | nil => simp
  | cons name names ih =>
    have fits : Clause.Fits ⟨.only, name, true⟩ := .inl rfl
    have step := parse_clause fits options (names.map fun name => "--only=".toList ++ name)
    simp only [add_only, ih, List.append_assoc, List.singleton_append] at step
    exact step

theorem readArgument_endMark (h : readArgument argument = .endMark) : argument = "--".toList := by
  rw [readArgument.eq_def] at h
  split at h
  case h_1 => rfl
  case h_2 => exact absurd h (readLong_ne_endMark _ _)
  all_goals cases h

/-- Naming a checker puts it behind those that were named; no other option does. -/
theorem only_of_add (h : options.add setting value = .ok result) (attached : Bool) :
    result.only = options.only ++ named [⟨setting, value, attached⟩] := by
  revert h
  fun_cases add options setting value with
  | case1 =>
    rintro ⟨⟩
    rfl
  | case4 | case6 =>
    rintro ⟨⟩
    exact (List.append_nil _).symm
  | _ => nofun

theorem named_cons (clause : Clause) (clauses : List Clause) :
    named (clause :: clauses) = named [clause] ++ named clauses := by
  rw [named, ← List.singleton_append, List.filter_append, List.map_append]
  rfl

theorem written_nil {mark : List Text} (is : mark = [] ∨ mark = ["--".toList]) :
    Written [] mark :=
  ⟨List.forall_mem_nil _, mark, is, rfl⟩

theorem Written.cons (fits : clause.Fits) (written : Written clauses rest) :
    Written (clause :: clauses) (clause.arguments ++ rest) := by
  obtain ⟨all, mark, is, rfl⟩ := written
  exact ⟨List.forall_mem_cons.2 ⟨fits, all⟩, mark, is, (List.append_assoc _ _ _).symm⟩

/-- The names that are read are those that the options write, in order. -/
theorem exists_clauses_cons {next : Options} (fits : clause.Fits)
    (added : options.add clause.setting clause.value = .ok next)
    (known : ∃ clauses, Written clauses rest ∧ result.only = next.only ++ named clauses) :
    ∃ clauses, Written clauses (clause.arguments ++ rest) ∧
      result.only = options.only ++ named clauses := by
  obtain ⟨clauses, written, only⟩ := known
  refine ⟨clause :: clauses, written.cons fits, ?_⟩
  rw [only, only_of_add added clause.attached, List.append_assoc, ← named_cons]

/-- The induction is on the reading of arguments, which has come to options only if all of them
could be used. -/
theorem exists_clauses (parsed : options.parse arguments = .ok result) :
    ∃ clauses, Written clauses arguments ∧ result.only = options.only ++ named clauses := by
  fun_induction parse options arguments with
  | case1 options =>
    obtain rfl := Except.ok.inj parsed
    exact ⟨[], written_nil (.inl rfl), (List.append_nil _).symm⟩
  | case5 options argument mark =>
    obtain rfl := Except.ok.inj parsed
    rw [readArgument_endMark mark]
    exact ⟨[], written_nil (.inr rfl), (List.append_nil _).symm⟩
  | case8 options argument rest setting value is next added ih =>
    have fits : Clause.Fits ⟨setting, value, true⟩ := .inl rfl
    rw [readArgument_setting is]
    exact exists_clauses_cons fits added (ih parsed)
  | case11 options argument setting is value rest plain next added ih =>
    have fits : Clause.Fits ⟨setting, value, false⟩ := .inr plain
    rw [readArgument_setting is, Option.map_none, Option.getD_none, List.append_nil]
    exact exists_clauses_cons fits added (ih parsed)
  | _ => cases parsed

end Clauses

end Options

/-! ## Selecting checkers -/

/-- The outcomes of a row of inspections carry the names of their checkers in order. -/
theorem Inspection.id_runAll {σ : Type} (source : Source σ) (launch : Launcher σ)
    (inspections : List Inspection) (state : σ) :
    (runAll source launch inspections state).1.map (·.1.id) =
      inspections.map fun inspection => inspection.checker.id := by
  induction inspections generalizing state with
  | nil => rfl
  | cons inspection inspections ih =>
    rw [runAll, List.map_cons, List.map_cons, id_run source launch inspection state, ih]

namespace CommandLine

open Report (line)

/-- The identifiers that are asked for, in report order; all if no name is given. -/
def wanted (names : List Text) : List Text :=
  Checker.ids.filter fun id => decide (names = [] ∨ id ∈ names)

/-- The path of the scratch directory on a machine. -/
def Machine.scratchPath (machine : Machine) : Text :=
  Checkout.scratchPath machine.environment machine.cwd machine.scratchEnding

section Selection

variable {checkers : List Checker} {names others before after : List Text} {name : Text}

/-- Of the names, the first one that is unknown is refused. -/
theorem select_unknown (all : checkers.map Checker.id = Checker.ids)
    (order : names = before ++ name :: after) (known : ∀ name ∈ before, name ∈ Checker.ids)
    (unknown : name ∉ Checker.ids) :
    select checkers names = .error (.unknownChecker name) := by
  have found : (names.find? fun name => !(checkers.map Checker.id).contains name) = some name := by
    rw [all, List.find?_eq_some_iff_append]
    refine ⟨by simpa using unknown, before, after, order, fun name mem => ?_⟩
    simpa using known name mem
  rw [select, found]

/-- Known names select their checkers, each once and in the order of all. -/
theorem select_known (all : checkers.map Checker.id = Checker.ids)
    (known : ∀ name ∈ names, name ∈ Checker.ids) :
    ∃ selected, select checkers names = .ok selected ∧ selected.Sublist checkers ∧
      selected.map Checker.id = wanted names := by
  refine ⟨_, select_ok_iff.2 ⟨all ▸ known, rfl⟩, List.filter_sublist, ?_⟩
  rw [wanted, ← all, List.filter_map]
  congr 2
  funext checker
  rw [Bool.eq_iff_iff]
  simp

/-- Only the set of names matters. -/
theorem select_eq_of_same_names (all : checkers.map Checker.id = Checker.ids)
    (known : ∀ name ∈ names, name ∈ Checker.ids) (same : ∀ name, name ∈ others ↔ name ∈ names) :
    select checkers others = select checkers names := by
  have empty : others = [] ↔ names = [] := by
    simp only [List.eq_nil_iff_forall_not_mem, same]
  have chosen : select checkers names = .ok (checkers.filter fun checker =>
      names.isEmpty || names.contains checker.id) :=
    select_ok_iff.2 ⟨all ▸ known, rfl⟩
  rw [chosen, select_ok_iff]
  refine ⟨fun name mem => all ▸ known name ((same name).1 mem), ?_⟩
  congr 1
  funext checker
  rw [Bool.eq_iff_iff]
  simp [empty, same]

end Selection

section Planning

variable {machine : Machine} {options other : Options} {found : Settings}

/-- With known names, a run fails only at listing or at the scratch directory. -/
theorem plan_known (rooted : settings machine options = .ok found)
    (known : ∀ name ∈ options.only, name ∈ Checker.ids) :
    ∃ checkers, checkers.Sublist found.checkers ∧ checkers.map Checker.id = wanted options.only ∧
      plan machine options =
        match Checkout.ofDisk machine.disk machine.sight machine.cwd found machine.scratchPath with
        | .error failure => .error (.failed failure)
        | .ok checkout => .ok ⟨checkout, checkers, options.format.getD .text,
          Settings.timing machine.environment⟩ := by
  obtain ⟨checkers, chosen, order, ids⟩ := select_known (Checker.map_id_all found.program) known
  refine ⟨checkers, order, ids, ?_⟩
  simp only [plan, rooted, Settings.checkers, chosen]
  rfl

/-- A plan depends on which checkers are named, not on how often or in which order. -/
theorem plan_eq_of_same_names (rooted : settings machine options = .ok found)
    (root : other.root = options.root)
    (format : other.format.getD .text = options.format.getD .text)
    (known : ∀ name ∈ options.only, name ∈ Checker.ids)
    (same : ∀ name, name ∈ other.only ↔ name ∈ options.only) :
    plan machine other = plan machine options := by
  have rootedOther : settings machine other = .ok found := by
    rw [← rooted, settings, root]
    rfl
  have chosen := select_eq_of_same_names (Checker.map_id_all found.program) known same
  simp only [plan, rooted, rootedOther, Settings.checkers, chosen, format]

theorem written_eq_of_untimed {plan : Plan} (untimed : plan.timing = false) (color : Bool)
    (elapsed elapsedOther : Text → Text) (outcomes : List Outcome) :
    written color elapsed plan outcomes = written color elapsedOther plan outcomes := by
  simp only [written, entry, untimed, Bool.false_eq_true, if_false]

end Planning

/-! ## Runs -/

/-- What is to come of a run of the checkers with these identifiers, each once and in report order:
an error and nothing else if the files cannot be listed or there is no room for copies; else the
code of the outcomes of exactly these checkers. -/
def Works (start : Text → Launcher Workspace) (machine : Machine) (found : Settings)
    (ids : List Text) (ended : Reply × Disk) : Prop :=
  ∃ checkers : List Checker, checkers.Sublist found.checkers ∧ checkers.map Checker.id = ids ∧
    match Checkout.ofDisk machine.disk machine.sight machine.cwd found machine.scratchPath with
    | .error failure =>
      ended = (.ended 2 ⟨[], line ("Error: ".toList ++ failure.message)⟩, machine.disk)
    | .ok checkout =>
      ∃ results workspace written,
        Inspection.runAll checkout.source (start checkout.scratchDirectory)
            (checkers.map fun checker => ⟨checker, []⟩) { disk := machine.disk } =
          (results, workspace) ∧
        results.map (·.1.id) = ids ∧
        ended = (.ended (Outcome.exitCode (results.map (·.1))) written, workspace.disk)

/-- What comes of a run that cannot find a checker. -/
def unknownReply (name : Text) : Reply :=
  .ended 2 ⟨[], line ("Error: unknown checker '".toList ++ name ++ "'. Known checkers: ".toList ++
    "misspell, broken-links, unwanted-files, sloppy-copyright, acronyms, var-typos".toList)⟩

section Run

variable {start : Text → Launcher Workspace} {color : Bool} {elapsed : Text → Text}
  {machine : Machine} {arguments others : List Text} {options other : Options} {found : Settings}

theorem joinWith_ids : Text.joinWith ", ".toList Checker.ids =
    "misspell, broken-links, unwanted-files, sloppy-copyright, acronyms, var-typos".toList := by
  rfl

theorem problemReply_unknownChecker (name : Text) :
    problemReply (.unknownChecker name) = unknownReply name := by
  have message : problemReply (.unknownChecker name) = .ended 2 ⟨[], line ("Error: ".toList ++
      ("unknown checker '".toList ++ name ++ "'. Known checkers: ".toList ++
        Text.joinWith ", ".toList Checker.ids))⟩ := rfl
  have front : "Error: unknown checker '".toList =
      "Error: ".toList ++ "unknown checker '".toList := rfl
  rw [message, joinWith_ids, unknownReply, front]
  simp only [List.append_assoc]

/-- An unknown name is refused, whatever the disk holds. -/
theorem run_unknown (parsed : Options.parse {} arguments = .ok options)
    (rooted : settings machine options = .ok found) {before after : List Text} {name : Text}
    (order : options.only = before ++ name :: after) (known : ∀ name ∈ before, name ∈ Checker.ids)
    (unknown : name ∉ Checker.ids) :
    run start color elapsed machine arguments = (unknownReply name, machine.disk) := by
  have ended : plan machine options = .error (.unknownChecker name) :=
    plan_unknown rooted (select_unknown (Checker.map_id_all found.program) order known unknown)
  rw [run_of_problem start color elapsed parsed ended, problemReply_unknownChecker]

/-- With known names a run works through just the checkers that are wanted. -/
theorem works_run (parsed : Options.parse {} arguments = .ok options)
    (rooted : settings machine options = .ok found)
    (known : ∀ name ∈ options.only, name ∈ Checker.ids) :
    Works start machine found (wanted options.only)
      (run start color elapsed machine arguments) := by
  obtain ⟨checkers, order, ids, planned⟩ := plan_known rooted known
  refine ⟨checkers, order, ids, ?_⟩
  split at planned
  · exact run_of_problem start color elapsed parsed planned
  · refine ⟨_, _, _, rfl, ?_, run_of_plan start color elapsed parsed planned⟩
    rw [Inspection.id_runAll, List.map_map, ← ids]
    rfl

/-- Runs with the same names give the same reply, but for their times. -/
theorem run_eq_of_same_names (parsed : Options.parse {} arguments = .ok options)
    (rooted : settings machine options = .ok found)
    (known : ∀ name ∈ options.only, name ∈ Checker.ids) (elapsedOther : Text → Text)
    (parsedOther : Options.parse {} others = .ok other) (root : other.root = options.root)
    (format : other.format.getD .text = options.format.getD .text)
    (same : ∀ name, name ∈ other.only ↔ name ∈ options.only)
    (untimed : Settings.timing machine.environment = false) :
    run start color elapsedOther machine others = run start color elapsed machine arguments := by
  have plans := plan_eq_of_same_names rooted root format known same
  cases planned : plan machine options with
  | error problem =>
    rw [run_of_problem start color elapsed parsed planned,
      run_of_problem start color elapsedOther parsedOther (plans.trans planned)]
  | ok plan =>
    obtain ⟨checkers, -, -, shape⟩ := plan_known rooted known
    have timing : plan.timing = false := by
      rw [planned] at shape
      split at shape
      · cases shape
      · obtain rfl := Except.ok.inj shape
        exact untimed
    -- The plan is the same, so that only the times could be written differently.
    simp only [run_of_plan start color elapsed parsed planned,
      run_of_plan start color elapsedOther parsedOther (plans.trans planned),
      written_eq_of_untimed timing color elapsedOther elapsed]

end Run

/-- What comes of a run that has a root. Any names can be given, and they are taken in their order.
The first that no checker has ends the run, whatever is on the disk. Otherwise the named checkers
work; and two runs that differ in order and repetition of the names, and in the time that they take,
end alike unless they are timed. -/
theorem run_selected (start : Text → Launcher Workspace) (color : Bool) (elapsed : Text → Text)
    (machine : Machine) {arguments : List Text} {options : Options} {found : Settings}
    (parsed : Options.parse {} arguments = .ok options)
    (rooted : settings machine options = .ok found) :
    (∀ names, Options.parse {} (names.map fun name => "--only=".toList ++ name) =
        .ok { only := names }) ∧
      (∃ clauses, Options.Written clauses arguments ∧ options.only = Options.named clauses) ∧
      (∀ before name after, options.only = before ++ name :: after →
        (∀ known ∈ before, known ∈ Checker.ids) → name ∉ Checker.ids →
        run start color elapsed machine arguments = (unknownReply name, machine.disk)) ∧
      ((∀ name ∈ options.only, name ∈ Checker.ids) →
        Works start machine found (wanted options.only)
            (run start color elapsed machine arguments) ∧
          ∀ others other elapsedOther, Options.parse {} others = .ok other →
            other.root = options.root → other.format.getD .text = options.format.getD .text →
            (∀ name, name ∈ other.only ↔ name ∈ options.only) →
            Settings.timing machine.environment = false →
            run start color elapsedOther machine others =
              run start color elapsed machine arguments) := by
  refine ⟨fun names => Options.parse_names names {}, Options.exists_clauses parsed,
    fun before name after => run_unknown parsed rooted,
    fun known => ⟨works_run parsed rooted known, ?_⟩⟩
  intro others other elapsedOther parsedOther root format same untimed
  exact run_eq_of_same_names parsed rooted known elapsedOther parsedOther root format same untimed

/-! ### Names in two orders, an unknown name, and a root that is missing -/

/-- Two checkers, one of them named twice. -/
def twiceNamed : List Text :=
  ["--only".toList, "acronyms".toList, "--only=misspell".toList, "--only=acronyms".toList,
    "--root-dir=/r".toList]

/-- The same checkers, each named once. -/
def onceNamed : List Text :=
  ["--root-dir".toList, "/r".toList, "--only=misspell".toList, "--only".toList, "acronyms".toList]

/-- Two names that no checker has, and a root that is not there. -/
def misnamed : List Text :=
  ["--only=misspell".toList, "--only".toList, "spelling".toList, "--root-dir=/gone".toList,
    "--only=".toList]

/-- A checker, and a root that is not there. -/
def misplaced : List Text := ["--only=misspell".toList, "--root-dir=/gone".toList]

theorem ofDisk_gone :
    Checkout.ofDisk pageMachine.disk pageMachine.sight pageMachine.cwd
        (Settings.ofRoot [] (Text.utf8 "/gone".toList)) pageMachine.scratchPath =
      .error (.walk (Text.utf8 "/gone".toList) .missing) := by
  have missing : pageMachine.disk.find pageMachine.cwd (Text.utf8 "/gone".toList) =
      .error .missing := by
    cbv
  simp only [Checkout.ofDisk, Disk.walk, Settings.ofRoot, missing]

/-- Named twice and in reversed order, two checkers run once each and in their own order. -/
theorem run_selected_page :
    Works (fun _ => echo []) pageMachine (Settings.ofRoot [] (Text.utf8 "/r".toList))
        ["misspell".toList, "acronyms".toList]
        (run (fun _ => echo []) false (fun _ => []) pageMachine twiceNamed) ∧
      run (fun _ => echo []) false (fun _ => "2ms".toList) pageMachine onceNamed =
        run (fun _ => echo []) false (fun _ => []) pageMachine twiceNamed ∧
      run (fun _ => echo []) false (fun _ => []) pageMachine misnamed =
        (unknownReply "spelling".toList, pageMachine.disk) ∧
      run (fun _ => echo []) false (fun _ => []) pageMachine misplaced =
        (.ended 2 ⟨[], line ("Error: ".toList ++
            (Failure.walk (Text.utf8 "/gone".toList) .missing).message)⟩,
          pageMachine.disk) := by
  have twice : Options.parse {} twiceNamed = .ok { pageOptions with
      only := ["acronyms".toList, "misspell".toList, "acronyms".toList] } := by
    decide
  have once : Options.parse {} onceNamed = .ok { pageOptions with
      only := ["misspell".toList, "acronyms".toList] } := by
    decide
  have unknown : Options.parse {} misnamed = .ok { pageOptions with
      root := some "/gone".toList, only := ["misspell".toList, "spelling".toList, []] } := by
    decide
  have gone : Options.parse {} misplaced = .ok { pageOptions with
      root := some "/gone".toList } := by
    decide
  obtain ⟨-, -, -, known⟩ := run_selected (fun _ => echo []) false (fun _ => []) pageMachine
    twice rfl
  obtain ⟨works, alike⟩ := known (by decide)
  obtain ⟨-, -, ends, -⟩ := run_selected (fun _ => echo []) false (fun _ => []) pageMachine
    unknown rfl
  obtain ⟨-, -, -, fails⟩ := run_selected (fun _ => echo []) false (fun _ => []) pageMachine
    gone rfl
  refine ⟨works, alike _ _ _ once rfl rfl (by simp) rfl,
    ends ["misspell".toList] "spelling".toList [[]] rfl (by decide) (by decide), ?_⟩
  obtain ⟨⟨checkers, -, -, ended⟩, -⟩ := fails (by decide)
  have opened := ofDisk_gone
  split at ended
  · rename_i failure failed
    obtain rfl := Except.error.inj (failed.symm.trans opened)
    exact ended
  · rename_i checkout found
    cases found.symm.trans opened

end CommandLine

end CheckoutLint
