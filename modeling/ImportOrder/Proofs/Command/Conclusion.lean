import ImportOrder.Proofs.Command.Progress

/-! A run in two parts: it gathers the outcomes of its files, and then it reports them and ends with
an exit code. -/

namespace ImportOrder.Command

open FileTree (Alike)

/-- The first part of a run: the options file that was asked for is loaded, and then the files are
sorted. Without the options file there is a message in place of outcomes. -/
def gather (input : Text) (arguments : Arguments) : Job (Except String (List Outcome)) := do
  match ← preload arguments with
  | .error message => return .error message
  | .ok loaded =>
    let outcomes ← runAll arguments loaded input
    return .ok outcomes

/-- The second part of a run: the report and the exit code. -/
def conclude (terminal : Bool) (arguments : Arguments) :
    Except String (List Outcome) → Job ExitCode
  | .error message => do
    Session.warn (message ++ "\n")
    return .error
  | .ok outcomes => do
    let summary := Summary.ofOutcomes outcomes
    report terminal arguments outcomes summary
    return exitCode arguments.check summary

/-- A run is its two parts. -/
theorem run_eq (terminal : Bool) (input : Text) (arguments : Arguments) :
    run terminal input arguments = gather input arguments >>= conclude terminal arguments := by
  unfold run gather
  -- The two parts are the same steps, with a bracket in another place.
  rw [bind_assoc]
  congr 1
  funext loaded?
  cases loaded? with
  | error message => rfl
  | ok loaded =>
    rw [bind_assoc]
    rfl

section Start

/-- The options file that was asked for. -/
def explicit? (config : Option String) : Option String :=
  (given config).map fun config => (Path.ofString config).toString

/-- The options files that a run knows before its first file. -/
def preloaded (files : FileTree) (config : Option String) : Loaded :=
  news files [] (explicit? config)

/-- The options file that was asked for, if there is one, can be used or not. -/
def start (files : FileTree) (config : Option String) : Except Failure (Except String Unit) :=
  match explicit? config with
  | none => .ok (.ok ())
  | some source => contained ((vetted files source).map fun _ => ())

theorem optionsFile?_explicit (files : FileTree) {config : Option String} {source : String}
    (asked : explicit? config = some source) (path : String) :
    (optionsFile? files config path).map Path.toString = some source := by
  unfold explicit? at asked
  obtain ⟨name, given, rfl⟩ := Option.map_eq_some_iff.mp asked
  simp [optionsFile?, given]

/-- Before the first file, the options file that was asked for is learned, and warned about. -/
theorem run_preload (arguments : Arguments) (session : Session) :
    (preload arguments).run session =
      ((start session.files arguments.config).map fun started =>
          started.map fun _ => preloaded session.files arguments.config,
        session.warned (newsText session.files (preloaded session.files arguments.config))) := by
  unfold preload start preloaded explicit?
  cases asked : given arguments.config with
  | none => simp [news, newsText, Except.map, Job.run_pure]
  | some name =>
    -- The options file that was asked for is the same for every path, also for none.
    have found : optionsFile? session.files arguments.config "" = some (Path.ofString name) := by
      simp [optionsFile?, asked]
    -- Nothing is known yet, so nothing known can be wrong.
    have unknown : ∀ file, optionsFile? session.files arguments.config "" = some file →
        Known session.files [] file.toString := fun _ _ _ cached => by cases cached
    have loads := run_optionsFor unknown
    simp only [found, Option.map_some, optionsAt] at loads
    simp only [Option.isNone_some, Bool.false_eq_true, if_false, Job.run_bind, run_attempt, loads,
      Option.map_some]
    cases vetted session.files (Path.ofString name).toString with
    | error failure =>
      simp only [Except.map, contained]
      cases reported? failure <;> rfl
    | ok usable => simp [Except.map, contained, Job.run_pure]

/-- What a run knows before its first file is what the options file says. -/
theorem known_preloaded (files : FileTree) (config : Option String) (source : String) :
    Known files (preloaded files config) source := by
  -- From nothing known, one step of learning leads here.
  have nothing : ∀ source, Known files [] source := fun _ _ cached => by cases cached
  have known := known_news nothing (explicit? config) source
  simpa [preloaded] using known

/-- An options file that was asked for and cannot be used is not learned. -/
theorem preloaded_of_message {files : FileTree} {config : Option String} {message : String}
    (refused : start files config = .ok (.error message)) : preloaded files config = [] := by
  unfold start at refused
  -- Had it been learned, it could be used and there would be no message.
  rcases news_cases files [] (explicit? config) with
    ⟨nothing, -⟩ | ⟨source, entries, lines, asked, -, usable, -⟩
  · exact nothing
  · simp [asked, usable, Except.map, contained] at refused

end Start

section Gathering

/-- The notices of a run: those about the options file that was asked for, and those of its files. -/
def runNotices (files : FileTree) (arguments : Arguments) : List Notice :=
  newsNotices (preloaded files arguments.config) ++
    notices files arguments.config (preloaded files arguments.config) arguments.files

/-- The end of the first part of a run that came to its files. -/
structure Gathered (arguments : Arguments) (before after : Session) (outcomes : List Outcome) :
    Prop where
  decided : ∀ path ∈ arguments.files,
    ∃ judgement, verdict before.files arguments.config path = .ok judgement
  outcomes : List.Forall₂ (fun path outcome => outcome.path = path ∧
    outcome.result.map SortResult.untimed =
      (settlement before.files arguments path).1.map SortResult.untimed) arguments.files outcomes
  own : ∀ path ∈ arguments.files, ∀ names, before.files.locate path = .ok names →
    after.files.entry? names = FileTree.entry? (settlement before.files arguments path).2 names
  others : Alike (fun names => ∃ path ∈ arguments.files, before.files.locate path = .ok names)
    before.files after.files
  warnings : after.warnings = before.warnings ++
    noticesText before.files arguments.config (runNotices before.files arguments)

section Gathered

variable {arguments : Arguments} {before after : Session} {outcomes : List Outcome}
  (done : Gathered arguments before after outcomes)

include done

/-- The outcomes of a run are those of its files. -/
theorem Gathered.paths : outcomes.map Outcome.path = arguments.files := by
  have same : List.Forall₂ (fun path outcome => path = outcome.path) arguments.files outcomes :=
    done.outcomes.imp fun _ _ told => told.1.symm
  -- Lists that agree member by member are equal.
  rw [← List.forall₂_map_right_iff, List.forall₂_eq_eq_eq] at same
  exact same.symm

/-- An outcome of a run is what becomes of its file, apart from the time that the sort takes. -/
theorem Gathered.untimed_eq {outcome : Outcome} (member : outcome ∈ outcomes) :
    outcome.untimed = ⟨outcome.path,
      (settlement before.files arguments outcome.path).1.map SortResult.untimed⟩ := by
  obtain ⟨index, bound, rfl⟩ := List.mem_iff_getElem.mp member
  have told := List.Forall₂.get done.outcomes (by rw [done.outcomes.length_eq]; exact bound) bound
  simp only [List.get_eq_getElem] at told
  rw [Outcome.untimed, told.2, told.1]

/-- A file reads in the end as what became of it. -/
theorem Gathered.read_eq {path : String} (member : path ∈ arguments.files) :
    after.files.read path = (settlement before.files arguments path).2.read path := by
  -- The path leads to the same place before and after, and that place is the file's own.
  unfold FileTree.read
  rw [← done.others.locate, ← (settlement_alike before.files arguments path).locate]
  cases located : before.files.locate path with
  | error error => rfl
  | ok names => simp only [Bind.bind, Except.bind, done.own path member names located]

end Gathered

variable {arguments : Arguments} {before : Session}

/-- The first part of a run ends well if the options file that was asked for can be used and the files
at the start decide all files; with a message if that options file cannot be used; and else with a
failure. -/
theorem run_gather (input : Text) (inPlace : arguments.stdin = false)
    (undisturbed : Undisturbed before.files arguments.config arguments.files)
    (quiet : ∀ path ∈ arguments.files, Quiet before.files arguments.config path) :
    match start before.files arguments.config with
    | .error failure => ((gather input arguments).run before).1 = .error failure
    | .ok (.error message) => (gather input arguments).run before = (.ok (.error message), before)
    | .ok (.ok _) =>
      (∃ outcomes after, (gather input arguments).run before = (.ok (.ok outcomes), after) ∧
          Gathered arguments before after outcomes) ∨
        ∃ failure, ((gather input arguments).run before).1 = .error failure ∧
          ∃ path ∈ arguments.files, verdict before.files arguments.config path = .error failure := by
  simp only [gather, Job.run_bind, run_preload]
  cases started : start before.files arguments.config with
  | error failure => simp [Except.map]
  | ok result =>
    cases result with
    -- The run ends before its first file.
    | error message =>
      simp [Except.map, preloaded_of_message started, newsText, Job.run_pure]
    | ok _ =>
      -- The standard input is not asked for, so it is the files that are sorted.
      have sorts : ∀ loaded,
          runAll arguments loaded input = runFiles arguments loaded arguments.files := by
        intro loaded
        simp [runAll, inPlace]
      simp only [Except.map, Job.run_bind, sorts]
      -- Nothing has been written when the first file is sorted.
      have alike : Alike (fun _ => False) before.files (before.warned
          (newsText before.files (preloaded before.files arguments.config))).files := .refl _ _
      rcases run_runFiles alike (fun _ _ _ _ => not_false) undisturbed
          (known_preloaded before.files arguments.config) quiet with
        ⟨outcomes, after, ran, done, decided⟩ | ⟨failure, failed, path, member, undecided⟩
      · refine .inl ⟨outcomes, after, ?_, decided, done.outcomes, done.own, done.others, ?_⟩
        · simp only [ran]
          rfl
        · rw [done.warnings]
          simp [runNotices, noticesText_news, Session.warned, String.append_assoc]
      · refine .inr ⟨failure, ?_, path, member, undecided⟩
        rcases ran : (runFiles arguments (preloaded before.files arguments.config)
          arguments.files).run (before.warned
            (newsText before.files (preloaded before.files arguments.config))) with ⟨result, later⟩
        rw [ran] at failed
        obtain rfl : result = .error failure := failed
        rfl

end Gathering

section Reporting

/-- The status line of an outcome, none if its status has no label. -/
def statusLine? (terminal check : Bool) (outcome : Outcome) : Option String :=
  (outcomeLine terminal check outcome).toOption

/-- The report of outcomes, none if a status has no label. -/
def reportText? (terminal : Bool) (arguments : Arguments) (outcomes : List Outcome) :
    Option String :=
  let summary := Summary.ofOutcomes outcomes
  match arguments.format with
  | .json =>
    let text := Report.json (arguments.check || arguments.stdin) outcomes summary
    some (String.ofList text ++ "\n")
  | .text => do
    let lines ← outcomes.mapM (statusLine? terminal arguments.check)
    let last := if arguments.stdin then "" else Report.summaryLine terminal summary ++ "\n"
    return String.join (lines.map (· ++ "\n")) ++ last

/-- Write the status line of an outcome. -/
def tell (terminal check : Bool) (outcome : Outcome) : Job Unit :=
  match outcomeLine terminal check outcome with
  | .ok line => Session.warn (line ++ "\n")
  | .error error => throw (.setting error)

/-- Status lines are written one by one, up to one that has no label. -/
theorem run_tell (terminal check : Bool) (outcomes : List Outcome) (session : Session) :
    match outcomes.mapM (statusLine? terminal check) with
    | some lines => (outcomes.forM (tell terminal check)).run session =
        (.ok (), session.warned (String.join (lines.map (· ++ "\n"))))
    | none => ∃ failure, ((outcomes.forM (tell terminal check)).run session).1 =
        .error failure := by
  -- The lines in front are written also where a later one has no label.
  induction outcomes generalizing session with
  | nil => simp [Job.run_pure, List.forM]
  | cons outcome rest ih =>
    -- The loop over a list is its first step and the loop over the rest.
    have step : ((outcome :: rest).forM (tell terminal check)).run session =
        (tell terminal check outcome >>= fun _ => rest.forM (tell terminal check)).run session := rfl
    rw [step, List.mapM_cons, Job.run_bind, tell]
    cases shown : outcomeLine terminal check outcome with
    | error error =>
      have nothing : statusLine? terminal check outcome = none := by
        simp [statusLine?, shown, Except.toOption]
      rw [nothing]
      exact ⟨_, rfl⟩
    | ok line =>
      have something : statusLine? terminal check outcome = some line := by
        simp [statusLine?, shown, Except.toOption]
      have others := ih (session.warned (line ++ "\n"))
      rw [something]
      simp only [Session.run_warn]
      cases lines : rest.mapM (statusLine? terminal check) with
      | none =>
        simp only [lines] at others
        exact others
      | some lines =>
        simp only [lines] at others
        simp only [Option.pure_def, Option.bind_eq_bind, Option.bind_some, others, List.map_cons,
          String.join_cons, Session.warned_warned]

/-- The second part of a run ends if every status has a label. -/
theorem run_conclude (terminal : Bool) (arguments : Arguments) (outcomes : List Outcome)
    (session : Session) :
    match reportText? terminal arguments outcomes with
    | some text => (conclude terminal arguments (.ok outcomes)).run session =
        (.ok (exitCode arguments.check (Summary.ofOutcomes outcomes)), session.warned text)
    | none => ∃ failure, ((conclude terminal arguments (.ok outcomes)).run session).1 =
        .error failure := by
  simp only [conclude, report, reportText?, Job.run_bind]
  cases arguments.format with
  | json => rfl
  | text =>
    -- The lines are those of the loop, and then the summary.
    have lines : reportLines terminal arguments outcomes (Summary.ofOutcomes outcomes) =
        (do
          outcomes.forM (tell terminal arguments.check)
          if !arguments.stdin then
            Session.warn (Report.summaryLine terminal (Summary.ofOutcomes outcomes) ++ "\n")) := rfl
    have told := run_tell terminal arguments.check outcomes session
    simp only [lines, Job.run_bind]
    cases shown : outcomes.mapM (statusLine? terminal arguments.check) with
    | none =>
      simp only [shown] at told
      obtain ⟨failure, failed⟩ := told
      refine ⟨failure, ?_⟩
      rcases ran : (outcomes.forM (tell terminal arguments.check)).run session with ⟨result, later⟩
      rw [ran] at failed
      obtain rfl : result = .error failure := failed
      rfl
    | some lines =>
      simp only [shown] at told
      simp only [told]
      cases arguments.stdin with
      | true => simp [Job.run_pure]
      | false => simp [Session.run_warn, Job.run_pure]

end Reporting

section Separation

/-- The places of the configuration files that a run reads: that of the options file that was asked
for, and those of the configuration files of its files. -/
inductive ConfigurationRead (files : FileTree) (config : Option String) (paths : List String) :
    List Text → Prop
  | asked {source : String} {place : List Text} (asked : explicit? config = some source)
      (located : files.locate source = .ok place) : ConfigurationRead files config paths place
  | configures {path : String} {place : List Text} (member : path ∈ paths)
      (configures : Configures files config path place) : ConfigurationRead files config paths place

/-- Arguments that name files at different places, none of them a configuration file that the run
reads, and options that keep no log. -/
structure Separate (files : FileTree) (arguments : Arguments) : Prop where
  inPlace : arguments.stdin = false
  apart : arguments.files.Pairwise fun first second =>
    ∀ names, files.locate first = .ok names → files.locate second ≠ .ok names
  noConfiguration : ∀ path ∈ arguments.files, ∀ names, files.locate path = .ok names →
    ¬ConfigurationRead files arguments.config arguments.files names
  quiet : ∀ path ∈ arguments.files, Quiet files arguments.config path

/-- Paths that resolve to different places lead to different places. -/
theorem apart_of_resolve {files : FileTree} (proper : ProperPlace files.directory)
    {paths : List String}
    (distinct : (paths.map fun path => Path.resolve files.directory (Path.ofString path)).Nodup) :
    paths.Pairwise fun first second =>
      ∀ names, files.locate first = .ok names → files.locate second ≠ .ok names := by
  -- A path that leads somewhere leads to where it resolves to.
  refine (List.pairwise_map.mp distinct).imp ?_
  intro first second distinct names located located'
  exact distinct ((FileTree.locate_eq_resolve proper located).symm.trans
    (FileTree.locate_eq_resolve proper located'))

/-- Separate files do not disturb each other. -/
theorem Separate.undisturbed {files : FileTree} {arguments : Arguments}
    (separate : Separate files arguments) :
    Undisturbed files arguments.config arguments.files := by
  -- A file looks at its own place and at configuration files, and no other file is there.
  refine separate.apart.imp_of_mem ?_
  rintro first second member member' apart names located (own | configures)
  · exact apart names located own
  · exact separate.noConfiguration first member names located (.configures member' configures)

end Separation

section Sample

/-- Two files that a sort changes, the second of them locked, and one that it leaves alone, with a
manifest and with an options file that has an unknown option. -/
def shelf : FileTree where
  entries :=
    [([Project.optionsName.toList], .file (Utf8.encode ['a', ':', ' ', '1'])),
     ([Project.manifestName.toList], .file (Utf8.encode ['{', '}'])),
     ([['a']], .file (Utf8.encode [' ', 'i', 'm', 'p', 'o', 'r', 't', '"', 'x', '"', ';', '\n'])),
     ([['b']], .file (Utf8.encode [' ', 'i', 'm', 'p', 'o', 'r', 't', '"', 'y', '"', ';', '\n'])),
     ([['c']], .file (Utf8.encode [';']))]
  locked := [[['b']]]

/-- The files of the shelf, and one that is not there. -/
def shelved : Arguments := { files := ["a", "b", "c", "d"], format := .json }

theorem shelf_options : ∀ path ∈ shelved.files, ∀ entries, optionsAt shelf none path = .ok entries →
    (Options.ofDocument (.mapping entries)).resolver.type ≠ "fs" ∧
      (Options.ofDocument (.mapping entries)).logging.enabled = false := by
  -- The options of four files are computed.
  have checked : shelved.files.all fun path =>
      ((optionsAt shelf none path).toOption.map fun entries =>
        let options := Options.ofDocument (.mapping entries)
        options.resolver.type != "fs" && !options.logging.enabled) == some true := by
    decide +kernel
  intro path member entries options
  simpa [options, Except.toOption] using List.all_eq_true.mp checked path member

theorem shelf_configures {path : String} (member : path ∈ shelved.files) {place : List Text}
    (configures : Configures shelf none path place) :
    place = [Project.optionsName.toList] ∨ place = [Project.manifestName.toList] := by
  have options : ∀ path ∈ shelved.files,
      optionsFile? shelf none path = some (Path.absolute [Project.optionsName.toList]) := by
    decide +kernel
  have manifest : ∀ path ∈ shelved.files,
      Project.find? shelf Project.manifestName (Project.searchPath path) =
        some (Path.absolute [Project.manifestName.toList]) := by
    decide +kernel
  have places : ∀ name ∈ [Project.optionsName.toList, Project.manifestName.toList],
      shelf.locate (Path.absolute [name]).toString = .ok [name] := by
    decide +kernel
  -- The only files that configure are the one with the options and the manifest.
  cases configures with
  | options read found located =>
    obtain rfl := Option.some.inj ((options path member).symm.trans found)
    exact .inl (Except.ok.inj (located.symm.trans (places _ (by simp))))
  | resolver read options consults =>
    cases consults with
    | manifest type found located =>
      obtain rfl := Option.some.inj ((manifest path member).symm.trans found)
      exact .inr (Except.ok.inj (located.symm.trans (places _ (by simp))))
    | project type found reads => exact absurd type (shelf_options path member _ options).1

/-- The files of the shelf are separate. -/
theorem shelf_separate : Separate shelf shelved where
  inPlace := rfl
  apart := apart_of_resolve (by simp [shelf, ProperPlace]) (by decide +kernel)
  noConfiguration := by
    -- None of the four files is at one of the two places.
    have elsewhere : ∀ path ∈ shelved.files, shelf.locate path ≠ .ok [Project.optionsName.toList] ∧
        shelf.locate path ≠ .ok [Project.manifestName.toList] := by
      decide +kernel
    intro path member names located reads
    cases reads with
    | asked asked _ => cases asked
    | configures named configures =>
      rcases shelf_configures named configures with rfl | rfl
      · exact (elsewhere path member).1 located
      · exact (elsewhere path member).2 located
  quiet := fun path member _ entries _ options => (shelf_options path member entries options).2

end Sample

section Ending

variable {terminal : Bool} {input : Text} {arguments : Arguments} {before after : Session}
  {code : ExitCode}

/-- A run that ends with a code ends in a session. -/
theorem ended_of_code (ends : ((run terminal input arguments).run before).1.toOption = some code) :
    (run terminal input arguments).run before =
      (.ok code, ((run terminal input arguments).run before).2) := by
  rcases ran : (run terminal input arguments).run before with ⟨failure | code', after⟩
  · rw [ran] at ends
    cases ends
  · rw [ran] at ends
    rw [← Option.some.inj ends]

/-- A run whose parts end ends. -/
theorem run_of_parts {gathered : Except String (List Outcome)} {middle : Session}
    (gathers : (gather input arguments).run before = (.ok gathered, middle))
    (concludes : (conclude terminal arguments gathered).run middle = (.ok code, after)) :
    (run terminal input arguments).run before = (.ok code, after) := by
  rw [run_eq, Job.run_bind, gathers]
  exact concludes

/-- A run that ends has gathered outcomes or a message, and concluded. -/
theorem parts_of_run (ended : (run terminal input arguments).run before = (.ok code, after)) :
    ∃ gathered middle, (gather input arguments).run before = (.ok gathered, middle) ∧
      (conclude terminal arguments gathered).run middle = (.ok code, after) := by
  rw [run_eq, Job.run_bind] at ended
  rcases ran : (gather input arguments).run before with ⟨failure | gathered, middle⟩
  · rw [ran] at ended
    cases congrArg Prod.fst ended
  · exact ⟨gathered, middle, rfl, by simpa only [ran] using ended⟩

/-- The end of a run on separate files: a message about the options file that was asked for, or the
report of all files. -/
theorem Separate.ends (separate : Separate before.files arguments)
    (ended : (run terminal input arguments).run before = (.ok code, after)) :
    (∃ message, start before.files arguments.config = .ok (.error message) ∧
        (gather input arguments).run before = (.ok (.error message), before) ∧
        code = .error ∧ after = before.warned (message ++ "\n")) ∨
      ∃ outcomes middle text, start before.files arguments.config = .ok (.ok ()) ∧
        (gather input arguments).run before = (.ok (.ok outcomes), middle) ∧
        Gathered arguments before middle outcomes ∧
        reportText? terminal arguments outcomes = some text ∧
        code = exitCode arguments.check (Summary.ofOutcomes outcomes) ∧
        after = middle.warned text := by
  obtain ⟨gathered, middle, gathers, concludes⟩ := parts_of_run ended
  -- The first part ends in one of four ways, and two of them are failures.
  have ran := run_gather input separate.inPlace separate.undisturbed separate.quiet
  rw [gathers] at ran
  cases started : start before.files arguments.config with
  | error failure =>
    simp only [started] at ran
    cases ran
  | ok result =>
    cases result with
    | error message =>
      simp only [started] at ran
      obtain ⟨same, rfl⟩ := Prod.mk.inj ran
      obtain rfl := Except.ok.inj same
      obtain ⟨ends, rfl⟩ := Prod.mk.inj concludes
      exact .inl ⟨message, rfl, gathers, (Except.ok.inj ends).symm, rfl⟩
    | ok _ =>
      simp only [started] at ran
      rcases ran with ⟨outcomes, last, ran, done⟩ | ⟨failure, failed, -⟩
      · obtain ⟨same, rfl⟩ := Prod.mk.inj ran
        obtain rfl := Except.ok.inj same
        -- The second part ended with a code, so every status has a label.
        have reported := run_conclude terminal arguments outcomes middle
        cases shown : reportText? terminal arguments outcomes with
        | none =>
          simp only [shown] at reported
          obtain ⟨failure, failed⟩ := reported
          rw [concludes] at failed
          cases failed
        | some text =>
          simp only [shown] at reported
          obtain ⟨ends, rfl⟩ := Prod.mk.inj (concludes.symm.trans reported)
          exact .inr ⟨outcomes, middle, text, rfl, gathers, done, shown, Except.ok.inj ends, rfl⟩
      · cases failed

end Ending

end ImportOrder.Command
