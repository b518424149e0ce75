import ImportOrder.Command.Run
import ImportOrder.Proofs.Project.Containment

/-! What sorting one file comes to, as a function of the files alone: the verdict, the options file
that is loaded for it, the warnings, and what is written. The command does that and nothing else,
however much of it is known from files before. -/

namespace ImportOrder

namespace Session

/-- The session with a text written to the output for warnings. -/
def warned (session : Session) (text : String) : Session :=
  { session with warnings := session.warnings ++ text }

theorem run_warn (text : String) (session : Session) :
    (warn text).run session = (.ok (), session.warned text) := rfl

@[simp] theorem warned_files (session : Session) (text : String) :
    (session.warned text).files = session.files := rfl

@[simp] theorem warned_nil (session : Session) : session.warned "" = session := by
  simp [warned]

@[simp] theorem warned_warned (session : Session) (first second : String) :
    (session.warned first).warned second = session.warned (first ++ second) := by
  simp [warned, String.append_assoc]

/-- Texts that are written one by one are written as one. -/
theorem run_forM_warn {α : Type} (text : α → String) (items : List α) (session : Session) :
    (items.forM fun item => warn (text item)).run session =
      (.ok (), session.warned (String.join (items.map text))) := by
  -- The texts are added to the end, one behind the other.
  induction items generalizing session with
  | nil => simp [String.join_nil]; rfl
  | cons item rest ih =>
    show (warn (text item) >>= fun _ => rest.forM fun item => warn (text item)).run session = _
    simp only [Job.run_bind, run_warn, ih, warned_warned, List.map_cons, String.join_cons]

end Session

theorem Job.run_pure {α : Type} (value : α) (session : Session) :
    (pure value : Job α).run session = (.ok value, session) := rfl

theorem Job.run_throw {α : Type} (failure : Failure) (session : Session) :
    (throw failure : Job α).run session = (.error failure, session) := rfl

/-- A result that is no work leaves the session as it is. -/
theorem Job.run_lift {α : Type} (result : Except Failure α) (session : Session) :
    (liftM result : Job α).run session = (result, session) := by
  -- It fails or succeeds without a look at the session.
  cases result <;> rfl

/-- No log, no work. -/
theorem run_logSort {options : LoggingOptions} (quiet : options.enabled = false) (path : String)
    (source : Text) (result : SortResult) (session : Session) :
    (logSort options path source result).run session = (.ok (), session) := by
  -- The switch is asked before anything else.
  simp only [logSort, quiet]
  rfl

/-- A result with the time that it took. -/
def SortResult.timed (result : SortResult) (milliseconds : Int) : SortResult :=
  { result with milliseconds }

/-- A result without the time that it took. -/
def SortResult.untimed (result : SortResult) : SortResult := { result with milliseconds := 0 }

/-- An outcome without the time that it took. -/
def Outcome.untimed (outcome : Outcome) : Outcome :=
  { outcome with result := outcome.result.map SortResult.untimed }

end ImportOrder

namespace ImportOrder.Command

section Failures

/-- A result with the failures of one file turned into messages. -/
def contained {α : Type} : Except Failure α → Except Failure (Except String α)
  | .ok value => .ok (.ok value)
  | .error failure =>
    match reported? failure with
    | some message => .ok (.error message)
    | none => .error failure

/-- Trying a job keeps what it has done. -/
theorem run_attempt {α : Type} (job : Job α) (session : Session) :
    (attempt job).run session = (contained (job.run session).1, (job.run session).2) := by
  -- A job that fails hands its session on to the handler.
  show (tryCatch (Except.ok <$> job) _ : Job (Except String α)) session = _
  have split : (Except.ok <$> job : Job (Except String α)) session =
      (job >>= fun value => pure (Except.ok value)).run session := by
    rw [map_eq_pure_bind]
    rfl
  rw [Job.run_bind] at split
  simp only [tryCatch, tryCatchThe, MonadExceptOf.tryCatch, ExceptT.tryCatch, ExceptT.mk, Bind.bind,
    StateT.bind, split]
  rcases job.run session with ⟨failure | value, later⟩
  · -- A failure is turned into a message or thrown again.
    simp only [contained]
    cases reported? failure <;> rfl
  · rfl

end Failures

section Options

/-- The entries of an options file that can be used, with the lines that warn about it. -/
def vetted (files : FileTree) (source : String) : Except Failure (Entries × String) := do
  let entries ← Project.loadOptions files source
  let problems ← (optionProblems (.mapping entries)).mapError .pattern
  return (entries, String.join (problems.map fun problem => s!"{source}: {problem.message}\n"))

/-- The lines that warn about an options file, none if it cannot be used. -/
def warningLines (files : FileTree) (source : String) : String :=
  ((vetted files source).toOption.map Prod.snd).getD ""

/-- The options for a path: those of its options file, or none. -/
def optionsAt (files : FileTree) (config : Option String) (path : String) :
    Except Failure Entries :=
  match optionsFile? files config path with
  | none => .ok []
  | some file => (vetted files file.toString).map Prod.fst

/-- What is loaded for an options file: nothing if it is known or cannot be used. -/
def news (files : FileTree) (loaded : Loaded) : Option String → Loaded
  | none => []
  | some source =>
    match loaded.lookup source, vetted files source with
    | none, .ok (entries, _) => [(source, entries)]
    | _, _ => []

/-- What is known of an options file is what it says. -/
def Known (files : FileTree) (loaded : Loaded) (source : String) : Prop :=
  ∀ entries, loaded.lookup source = some entries → ∃ lines, vetted files source = .ok (entries, lines)

/-- The warnings about options files that were loaded. -/
def newsText (files : FileTree) (learned : Loaded) : String :=
  String.join (learned.map fun (source, _) => warningLines files source)

/-- The options for a path are the same whether they are known or not; if not, they are learned, and
warned about. -/
theorem run_optionsFor {session : Session} {config : Option String} {loaded : Loaded}
    {path : String} (known : ∀ file, optionsFile? session.files config path = some file →
      Known session.files loaded file.toString) :
    let learned := news session.files loaded
      ((optionsFile? session.files config path).map Path.toString)
    (optionsFor config loaded path).run session =
      ((optionsAt session.files config path).map fun entries => (entries, learned ++ loaded),
        session.warned (newsText session.files learned)) := by
  simp only [optionsFor, Job.run_bind, Session.run_currentFiles, optionsAt]
  cases found : optionsFile? session.files config path with
  | none => simp [news, newsText, String.join_nil, Except.map, Job.run_pure]
  | some file =>
    simp only [Option.map_some, news]
    cases cached : loaded.lookup file.toString with
    | some entries =>
      -- What is known is what loading gives, so nothing is loaded.
      obtain ⟨lines, vetted⟩ := known file found entries cached
      simp [vetted, newsText, String.join_nil, Except.map, Job.run_pure]
    | none =>
      -- An options file is learned once it is loaded and its problems are told.
      cases read : Project.loadOptions session.files file.toString with
      | error failure =>
        have failed : vetted session.files file.toString = .error failure := by
          simp only [vetted, read, Bind.bind, Except.bind]
        simp [failed, newsText, String.join_nil, Except.map, Job.run_throw]
      | ok entries =>
        simp only [Job.run_bind, warnProblems]
        cases checked : optionProblems (.mapping entries) with
        | error excess =>
          have failed : vetted session.files file.toString = .error (.pattern excess) := by
            simp only [vetted, read, checked, Bind.bind, Except.bind, Except.mapError]
          simp [failed, newsText, String.join_nil, Except.map, Job.run_throw]
        | ok problems =>
          have usable : vetted session.files file.toString = .ok (entries, String.join
              (problems.map fun problem => s!"{file.toString}: {problem.message}\n")) := by
            simp only [vetted, read, checked, Bind.bind, Except.bind, Except.mapError]
            rfl
          simp only [Session.run_forM_warn, Job.run_pure, usable]
          simp [newsText, warningLines, usable, String.join_cons, String.join_nil, Except.map,
            Except.toOption]

end Options

section Sorting

/-- What putting the imports of a source in order comes to, with the warning on the way. -/
def arranged (source : Text) : Option Arrangement → SortResult × String
  | none => ({ status := Status.unchanged, source }, "")
  | some arrangement =>
    let changed := arrangement.text != source
    ({ status := if changed then Status.sorted else Status.unchanged
       source := arrangement.text, changed, importCount := arrangement.imports
       groupCount := arrangement.groups }, arrangement.warning)

/-- What sorting a source comes to, apart from the time it takes, with the warning on the way. -/
def sorting (files : FileTree) (options : Options) (path : String) (source : Text) :
    Except Failure (SortResult × String) :=
  match Project.resolver files options.resolver path with
  | .error failure => (unresolved source failure).map fun result => (result, "")
  | .ok resolver =>
    (arrangeImports (resolver.classifier files) options path source).map (arranged source)

/-- The warning of a sort, none if it fails. -/
def warningOf {α : Type} (result : Except Failure (α × String)) : String :=
  (result.toOption.map Prod.snd).getD ""

/-- A sort without a log reads the clock, warns, and leaves everything else as it is. -/
theorem run_sortImports {options : Options} (quiet : options.logging.enabled = false)
    (source : Text) (path : String) (session : Session) :
    ∃ milliseconds clock, (sortImports source path options).run session =
      ((sorting session.files options path source).map fun (result, _) =>
          result.timed milliseconds,
        { session.warned (warningOf (sorting session.files options path source)) with clock }) := by
  unfold sorting
  cases resolved : Project.resolver session.files options.resolver path with
  | error failure =>
    -- Without a resolver the source is skipped, or the sort ends.
    refine ⟨0, session.clock.drop 1, ?_⟩
    rw [sortImports_unresolved resolved]
    cases failure <;> simp [unresolved, warningOf, Except.map, Except.toOption, SortResult.timed]
  | ok resolver =>
    unfold sortImports
    simp only [Job.run_bind, Session.run_readClock, Session.run_currentFiles, resolved]
    rw [Job.run_lift]
    -- The classifier is that of the files at this point, as in the statement.
    cases arrangeImports (resolver.classifier session.files) options path source with
    | error failure =>
      refine ⟨0, session.clock.drop 1, ?_⟩
      simp [warningOf, Except.map, Except.toOption]
    | ok arrangement? =>
      cases arrangement? with
      -- Without imports the clock is not read a second time.
      | none =>
        refine ⟨0, session.clock.drop 1, ?_⟩
        simp [arranged, warningOf, Except.map, Except.toOption, SortResult.timed, Job.run_pure]
      | some arrangement =>
        -- The clock is read once more when the imports are in order.
        refine ⟨millisecondsBetween (session.clock.head?.getD (.zero false))
          ((session.clock.drop 1).head?.getD (.zero false)), (session.clock.drop 1).drop 1, ?_⟩
        simp only [Job.run_bind, Session.run_warn, Session.run_readClock, run_logSort quiet,
          Job.run_pure]
        rfl

end Sorting

section Files

/-- What a failure makes of a file: a message about it, or the end of the run. -/
def refused (failure : Failure) : Except Failure (Except String SortResult × String) :=
  match reported? failure with
  | some message => .ok (.error message, "")
  | none => .error failure

/-- What sorting a source by the options for its path comes to, apart from the time it takes: a
result or a message, with the warning on the way. -/
def judged (files : FileTree) (config : Option String) (path : String) (source : Text) :
    Except Failure (Except String SortResult × String) :=
  match optionsAt files config path with
  | .error failure => refused failure
  | .ok entries =>
    match sorting files (.ofDocument (.mapping entries)) path source with
    | .error failure => refused failure
    | .ok (result, warning) => .ok (.ok result, warning)

/-- What a file comes to before it is written. -/
def verdict (files : FileTree) (config : Option String) (path : String) :
    Except Failure (Except String SortResult × String) :=
  match readSource files path with
  | .error message => .ok (.error message, "")
  | .ok source => judged files config path source

/-- The options file that a file asks for if it can be read. -/
def consulted? (files : FileTree) (config : Option String) (path : String) : Option String :=
  match readSource files path with
  | .error _ => none
  | .ok _ => (optionsFile? files config path).map Path.toString

/-- The options that a file is sorted by keep no log. -/
def Quiet (files : FileTree) (config : Option String) (path : String) : Prop :=
  ∀ source entries, readSource files path = .ok source → optionsAt files config path = .ok entries →
    (Options.ofDocument (.mapping entries)).logging.enabled = false

/-- The message that a file cannot be written. -/
def writeFailure (path : String) (error : FileError) : String :=
  s!"Cannot write {path}: {error.message path}"

/-- What becomes of a file and of the tree: a changed file is written unless the run only checks. -/
def settled (check : Bool) (files : FileTree) (path : String) :
    Except String SortResult → Except String SortResult × FileTree
  | .error message => (.error message, files)
  | .ok result =>
    if check || !result.changed then (.ok result, files)
    else
      match files.write path (Utf8.encode result.source) with
      | .error error => (.error (writeFailure path error), files)
      | .ok written => (.ok result, written)

section Settling

variable {check : Bool} {files : FileTree} {path : String} {result : SortResult}

theorem settled_kept (kept : (check || !result.changed) = true) :
    settled check files path (.ok result) = (.ok result, files) := by
  simp only [settled, kept, if_true]

theorem settled_failed (changes : (check || !result.changed) = false) {error : FileError}
    (failed : files.write path (Utf8.encode result.source) = .error error) :
    settled check files path (.ok result) = (.error (writeFailure path error), files) := by
  simp only [settled, changes, Bool.false_eq_true, if_false, failed]

theorem settled_written (changes : (check || !result.changed) = false) {after : FileTree}
    (written : files.write path (Utf8.encode result.source) = .ok after) :
    settled check files path (.ok result) = (.ok result, after) := by
  simp only [settled, changes, Bool.false_eq_true, if_false, written]

/-- Writing a result settles it. -/
theorem run_writeResult (session : Session) :
    (writeResult check path result).run session =
      (.ok (settled check session.files path (.ok result)).1,
        { session with files := (settled check session.files path (.ok result)).2 }) := by
  unfold writeResult
  -- A check and a text that is the same are both kept as they are.
  cases kept : check || !result.changed with
  | true =>
    rw [settled_kept kept]
    rfl
  | false =>
    simp only [Bool.false_eq_true, if_false, Job.run_bind, Session.run_currentFiles]
    cases written : session.files.write path (Utf8.encode result.source) with
    | error error =>
      rw [settled_failed kept written]
      rfl
    | ok after =>
      rw [settled_written kept written]
      rfl

end Settling

/-- The time that a sort takes does not matter for what becomes of the file. -/
theorem settled_timed (check : Bool) (files : FileTree) (path : String)
    (result : Except String SortResult) (milliseconds : Int) :
    settled check files path (result.map (·.timed milliseconds)) =
      ((settled check files path result).1.map (·.timed milliseconds),
        (settled check files path result).2) := by
  cases result with
  | error message => rfl
  | ok result =>
    -- What is done depends on the text and on whether it differs.
    show settled check files path (.ok (result.timed milliseconds)) = _
    cases kept : check || !result.changed with
    | true =>
      have kept' : (check || !(result.timed milliseconds).changed) = true := kept
      rw [settled_kept kept, settled_kept kept']
      rfl
    | false =>
      have changes : (check || !(result.timed milliseconds).changed) = false := kept
      cases written : files.write path (Utf8.encode result.source) with
      | error error =>
        rw [settled_failed kept written, settled_failed changes written]
        rfl
      | ok after =>
        rw [settled_written kept written, settled_written changes written]
        rfl

/-- Options that cannot be had are not learned. -/
theorem news_of_error {files : FileTree} {config : Option String} {path : String} {failure : Failure}
    (failed : optionsAt files config path = .error failure) (loaded : Loaded) :
    news files loaded ((optionsFile? files config path).map Path.toString) = [] := by
  unfold optionsAt at failed
  cases found : optionsFile? files config path with
  | none => rfl
  | some file =>
    simp only [found] at failed
    -- The options could not be had because this file cannot be used.
    cases vetting : vetted files file.toString with
    | error failure => simp [news, vetting]
    | ok usable => simp [vetting, Except.map] at failed

/-- Sorting by the options for a path gives the verdict, learns, and warns. -/
theorem run_sortWith {session : Session} {config : Option String} {loaded : Loaded} {path : String}
    (source : Text) (known : ∀ file, optionsFile? session.files config path = some file →
      Known session.files loaded file.toString)
    (quiet : ∀ entries, optionsAt session.files config path = .ok entries →
      (Options.ofDocument (.mapping entries)).logging.enabled = false) :
    let learned := news session.files loaded
      ((optionsFile? session.files config path).map Path.toString)
    ∃ milliseconds clock, (sortWith config loaded source path).run session =
      ((judged session.files config path source).map fun (result, _) =>
          (result.map (·.timed milliseconds), learned ++ loaded),
        { session.warned (newsText session.files learned ++
            warningOf (judged session.files config path source)) with clock }) := by
  intro learned
  simp only [sortWith, judged, Job.run_bind, run_attempt, run_optionsFor known]
  cases options : optionsAt session.files config path with
  | error failure =>
    -- Options that fail are not learned, so the warnings are none.
    have nothing : learned = [] := news_of_error options loaded
    refine ⟨0, session.clock, ?_⟩
    simp only [Except.map, contained, refused]
    cases reported? failure with
    | none => simp [nothing, learned, warningOf, newsText, Except.toOption]
    | some message => simp [nothing, learned, warningOf, newsText, Except.toOption, Job.run_pure]
  | ok entries =>
    obtain ⟨milliseconds, clock, sorted⟩ := run_sortImports (quiet entries options) source path
      (session.warned (newsText session.files learned))
    refine ⟨milliseconds, clock, ?_⟩
    simp only [Except.map, contained, Job.run_bind, run_attempt, Job.run_pure]
    -- Warnings do not touch the files.
    have files : (session.warned (newsText session.files learned)).files = session.files := rfl
    rw [files] at sorted
    rw [sorted]
    cases sorting session.files (.ofDocument (.mapping entries)) path source with
    | error failure =>
      simp only [Except.map, refused]
      cases reported? failure <;> simp [warningOf, Except.toOption, learned]
    | ok result => simp [Except.map, warningOf, Except.toOption, learned]

/-- What a run makes of one file: the verdict on it is settled, and its options file is learned if it
was not known. -/
theorem run_runFile {session : Session} {arguments : Arguments} {loaded : Loaded} {path : String}
    (known : ∀ source, consulted? session.files arguments.config path = some source →
      Known session.files loaded source)
    (quiet : Quiet session.files arguments.config path) :
    let learned := news session.files loaded (consulted? session.files arguments.config path)
    match verdict session.files arguments.config path with
    | .error failure => ((runFile arguments loaded path).run session).1 = .error failure
    | .ok (result, warning) =>
      let done := settled arguments.check session.files path result
      ∃ outcome clock, (runFile arguments loaded path).run session =
          (.ok (outcome, learned ++ loaded),
            { session.warned (newsText session.files learned ++ warning) with files := done.2, clock }) ∧
        outcome.path = path ∧
        outcome.result.map SortResult.untimed = done.1.map SortResult.untimed := by
  simp only [consulted?] at known
  simp only [runFile, verdict, consulted?, Job.run_bind, Session.run_currentFiles]
  cases read : readSource session.files path with
  | error message =>
    refine ⟨⟨path, .error message⟩, session.clock, ?_, rfl, rfl⟩
    simp [news, newsText, settled, Job.run_pure]
  | ok source =>
    -- The options file that is consulted is the one that is looked for.
    have knownFile : ∀ file, optionsFile? session.files arguments.config path = some file →
        Known session.files loaded file.toString := by
      intro file found
      exact known file.toString (by simp [read, found])
    obtain ⟨milliseconds, clock, sorted⟩ := run_sortWith source knownFile fun entries options =>
      quiet source entries read options
    simp only [Job.run_bind, sorted]
    cases judged session.files arguments.config path source with
    -- Such a failure ends the run, whatever was learned.
    | error failure => rfl
    | ok judgement =>
      obtain ⟨result, warning⟩ := judgement
      cases result with
      | error message =>
        refine ⟨⟨path, .error message⟩, clock, ?_, rfl, rfl⟩
        simp [Except.map, warningOf, Except.toOption, settled, Job.run_pure]
      | ok result =>
        -- The time is carried through the writing, which does not look at it.
        have timed := settled_timed arguments.check session.files path (.ok result) milliseconds
        refine ⟨⟨path, (settled arguments.check session.files path (.ok result)).1.map
          (·.timed milliseconds)⟩, clock, ?_, rfl, ?_⟩
        · rw [Except.map] at timed
          simp only [Except.map, warningOf, Except.toOption, Job.run_bind, run_writeResult, Job.run_pure,
            Session.warned_files, timed]
          rfl
        · cases (settled arguments.check session.files path (.ok result)).1 <;> rfl

end Files

end ImportOrder.Command
