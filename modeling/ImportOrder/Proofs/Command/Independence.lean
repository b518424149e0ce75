import ImportOrder.Proofs.Command.Conclusion

/-! Files are sorted independently of each other: in a run over files that are separate, every file
comes to what it comes to alone, and every options file is warned about once. -/

namespace ImportOrder.Command

open FileTree (Alike)

/-- The same arguments with one file only. -/
def Arguments.only (arguments : Arguments) (path : String) : Arguments :=
  { arguments with files := [path] }

section Reports

/-- No status line shows how long a sort took. -/
theorem statusLine?_untimed (terminal check : Bool) (outcome : Outcome) :
    statusLine? terminal check outcome.untimed = statusLine? terminal check outcome := by
  obtain ⟨path, result⟩ := outcome
  cases result <;> rfl

/-- Where all items give something, each of them does. -/
theorem exists_of_mapM {α β : Type} {f : α → Option β} {items : List α} {results : List β}
    (all : items.mapM f = some results) {item : α} (member : item ∈ items) : (f item).isSome := by
  -- All members have given something where the whole list has.
  induction items generalizing results with
  | nil => cases member
  | cons first rest ih =>
    simp only [List.mapM_cons, Option.bind_eq_bind, Option.bind_eq_some_iff] at all
    obtain ⟨here, found, others, more, -⟩ := all
    rcases List.mem_cons.mp member with rfl | behind
    · simp [found]
    · exact ih more behind

/-- A report that has lines for all outcomes has one for each of them alone. -/
theorem exists_reportText?_only {terminal : Bool} {arguments : Arguments} {outcomes : List Outcome}
    {text : String} (shown : reportText? terminal arguments outcomes = some text)
    {outcome alone : Outcome} (member : outcome ∈ outcomes) (same : alone.untimed = outcome.untimed)
    (path : String) : ∃ text, reportText? terminal (arguments.only path) [alone] = some text := by
  -- A JSON report shows whatever there is; lines need a label for each status.
  unfold reportText? at shown ⊢
  simp only [Arguments.only]
  cases format : arguments.format with
  | json => exact ⟨_, rfl⟩
  | text =>
    simp only [format, Option.bind_eq_bind, Option.bind_eq_some_iff] at shown
    obtain ⟨lines, all, -⟩ := shown
    have line := exists_of_mapM all member
    rw [← statusLine?_untimed, ← same, statusLine?_untimed] at line
    obtain ⟨line, found⟩ := Option.isSome_iff_exists.mp line
    simp [found]

end Reports

section Options

/-- The options files that a run uses: the one that was asked for, and those of its files. -/
def Uses (files : FileTree) (arguments : Arguments) (source : String) : Prop :=
  explicit? arguments.config = some source ∨
    ∃ path ∈ arguments.files, consulted? files arguments.config path = some source

/-- Notices that tell of every options file that is used and can be used, once, and else of sorts. -/
structure ToldOnce (files : FileTree) (arguments : Arguments) (notices : List Notice) : Prop where
  sorts : ∀ path ∈ notices.filterMap Notice.sort?, path ∈ arguments.files
  once : (notices.filterMap Notice.options?).Nodup
  exactly : ∀ source, source ∈ notices.filterMap Notice.options? ↔
    Uses files arguments source ∧ ∃ usable, vetted files source = .ok usable
  apart : (∀ name ∈ files.directory, '/' ∉ name) →
    ∀ first ∈ notices.filterMap Notice.options?, ∀ second ∈ notices.filterMap Notice.options?,
      ∀ names, files.locate first = .ok names → files.locate second = .ok names → first = second

variable {files : FileTree} {arguments : Arguments}

/-- An options file that was asked for is the only one that is used. -/
theorem uses_of_explicit {source : String} (asked : explicit? arguments.config = some source)
    {other : String} (uses : Uses files arguments other) : other = source := by
  rcases uses with same | ⟨path, -, consulted⟩
  · exact Option.some.inj (same.symm.trans asked)
  · -- What was asked for stands in for every search.
    unfold consulted? at consulted
    split at consulted
    · cases consulted
    · exact Option.some.inj (consulted.symm.trans (optionsFile?_explicit files asked path))

/-- A search looks for options files in proper places. -/
theorem exists_proper_of_candidate (rooted : ∀ name ∈ files.directory, '/' ∉ name) {path : String}
    {file : Path} (candidate : file ∈ Project.candidates files Project.optionsName path) :
    ∃ place, ProperPlace place ∧ file = Path.absolute place := by
  obtain ⟨directory, above, rfl⟩ := List.mem_map.mp candidate
  -- A search starts where a path resolves to, and goes up from there.
  have resolved : ProperPlace (Path.resolve files.directory (Path.ofString path)) :=
    Path.resolve_proper rooted path
  have proper : ProperPlace (Project.searchStart files path) := by
    simp only [Project.searchStart]
    split
    · exact resolved
    · exact resolved.dropLast
  have name : ProperName Project.optionsName.toList := by
    constructor <;> decide
  refine ⟨directory ++ [Project.optionsName.toList], ?_, rfl⟩
  intro segment member
  rcases List.mem_append.mp member with inside | last
  · obtain ⟨count, -, rfl⟩ := List.mem_map.mp (List.mem_reverse.mp above)
    exact proper segment (List.mem_of_mem_take inside)
  · rw [List.mem_singleton.mp last]
    exact name

/-- An options file that is searched for is called by the place where it is. -/
theorem absolute_of_consulted {config : Option String} (searched : explicit? config = none)
    (rooted : ∀ name ∈ files.directory, '/' ∉ name) {path source : String}
    (consulted : consulted? files config path = some source) {names : List Text}
    (located : files.locate source = .ok names) : source = (Path.absolute names).toString := by
  have free : given config = none := by simpa [explicit?] using searched
  unfold consulted? at consulted
  split at consulted
  · cases consulted
  · -- The absolute path of a proper place leads to that place.
    obtain ⟨file, found, rfl⟩ := Option.map_eq_some_iff.mp consulted
    simp only [optionsFile?, free] at found
    obtain ⟨place, proper, rfl⟩ := exists_proper_of_candidate rooted (List.mem_of_find?_eq_some found)
    rw [FileTree.locate_absolute proper located]

/-- A run tells of every options file that it uses once. -/
theorem toldOnce_runNotices : ToldOnce files arguments (runNotices files arguments) := by
  -- What was learned before the first file is known to all files.
  have behind : ∀ source, source ∈ (notices files arguments.config
      (preloaded files arguments.config) arguments.files).filterMap Notice.options? ↔
      (news files [] (explicit? arguments.config) ++ []).lookup source = none ∧
        (∃ path ∈ arguments.files, consulted? files arguments.config path = some source) ∧
        ∃ usable, vetted files source = .ok usable := by
    intro source
    rw [List.append_nil]
    exact mem_options_notices
  have split : (runNotices files arguments).filterMap Notice.options? =
      (news files [] (explicit? arguments.config)).map Prod.fst ++
        (notices files arguments.config (preloaded files arguments.config)
          arguments.files).filterMap Notice.options? := by
    rw [runNotices, List.filterMap_append, options_newsNotices, preloaded]
  have exactly : ∀ source, source ∈ (runNotices files arguments).filterMap Notice.options? ↔
      Uses files arguments source ∧ ∃ usable, vetted files source = .ok usable := by
    intro source
    rw [split, mem_learned behind]
    simp [Uses]
  refine ⟨?_, ?_, exactly, ?_⟩
  · rw [runNotices, List.filterMap_append, sort_newsNotices, sort_notices, List.nil_append]
    exact fun _ => id
  · rw [split]
    exact nodup_learned behind (nodup_options_notices _ _)
  · -- Only one options file can be asked for; one that is searched for is called by its place.
    intro rooted first told second told' names located located'
    have uses := ((exactly first).mp told).1
    have uses' := ((exactly second).mp told').1
    cases asked : explicit? arguments.config with
    | some source => rw [uses_of_explicit asked uses, uses_of_explicit asked uses']
    | none =>
      -- None was asked for, so both were searched for by a file.
      rcases uses with same | ⟨path, -, consulted⟩
      · simp [asked] at same
      · rcases uses' with same | ⟨path', -, consulted'⟩
        · simp [asked] at same
        · rw [absolute_of_consulted asked rooted consulted located,
            absolute_of_consulted asked rooted consulted' located']

/-- Where the options file that was asked for cannot be used, there is nothing to tell. -/
theorem toldOnce_nil {message : String}
    (started : start files arguments.config = .ok (.error message)) :
    ToldOnce files arguments [] := by
  refine ⟨by simp, List.nodup_nil, fun source => ⟨fun told => by simp at told, ?_⟩, by simp⟩
  rintro ⟨uses, usable, vetting⟩
  unfold start at started
  cases asked : explicit? arguments.config with
  | none => simp [asked] at started
  | some other =>
    -- The one that was asked for is the only one that is used, and it has a message.
    obtain rfl := uses_of_explicit asked uses
    simp [asked, vetting, Except.map, contained] at started

end Options

section Alone

variable {files : FileTree} {terminal : Bool} {input : Text} {arguments : Arguments}
  {before after alone : Session} {code : ExitCode} {path : String}

/-- Each of separate files is separate alone. -/
theorem Separate.only (separate : Separate files arguments) (member : path ∈ arguments.files) :
    Separate files (arguments.only path) where
  inPlace := separate.inPlace
  apart := List.pairwise_singleton _ _
  noConfiguration := by
    intro other named names located reads
    obtain rfl := List.mem_singleton.mp named
    refine separate.noConfiguration other member names located ?_
    -- Fewer files read no more configuration files.
    cases reads with
    | asked asked found => exact .asked asked found
    | configures named configures =>
      rw [List.mem_singleton.mp named] at configures
      exact .configures member configures
  quiet := by
    intro other named
    rw [List.mem_singleton.mp named]
    exact separate.quiet path member

/-- A file that the files at the start decide comes to an outcome alone. -/
theorem Separate.gathers_only (separate : Separate alone.files arguments)
    (member : path ∈ arguments.files) (started : start alone.files arguments.config = .ok (.ok ()))
    (decided : ∃ judgement, verdict alone.files arguments.config path = .ok judgement) :
    ∃ outcome middle, (gather input (arguments.only path)).run alone = (.ok (.ok [outcome]), middle) ∧
      Gathered (arguments.only path) alone middle [outcome] := by
  -- A run on one file ends unless the files do not decide that file.
  have single := separate.only member
  have ran := run_gather input single.inPlace single.undisturbed single.quiet
  simp only [Arguments.only, started] at ran
  rcases ran with ⟨outcomes, middle, ran, done⟩ | ⟨failure, -, other, named, undecided⟩
  · -- One file has one outcome.
    obtain ⟨outcome, others, -, rest, rfl⟩ := List.forall₂_cons_left_iff.mp done.outcomes
    obtain rfl := List.forall₂_nil_left_iff.mp rest
    exact ⟨outcome, middle, ran, done⟩
  · obtain ⟨judgement, decided⟩ := decided
    rw [List.mem_singleton.mp named, decided] at undecided
    cases undecided

/-- What a run gathered for one of its files is what it gathers for that file alone, apart from the
time that the sort takes. -/
def Agrees (path : String) : Except String (List Outcome) → Except String (List Outcome) → Prop
  | .error message, single => single = .error message
  | .ok outcomes, single => ∃ own, single = .ok [own] ∧
    ∀ outcome ∈ outcomes, outcome.path = path → own.untimed = outcome.untimed

/-- What a run writes at its end: the message about the options file that was asked for, or the
report. -/
def closing? (terminal : Bool) (arguments : Arguments) :
    Except String (List Outcome) → Option String
  | .error message => some (message ++ "\n")
  | .ok outcomes => reportText? terminal arguments outcomes

/-- In a run on separate files that ends, every file comes to what it comes to in a run on that file
alone: the same outcome, apart from the time that the sort takes, and the same content in the end. On
the way the run tells of every options file that it uses once, however many files use it. -/
theorem run_independent (separate : Separate before.files arguments)
    (ended : (run terminal input arguments).run before = (.ok code, after)) :
    ∃ gathered middle notices text,
      (gather input arguments).run before = (.ok gathered, middle) ∧
      (conclude terminal arguments gathered).run middle = (.ok code, after) ∧
      (∀ outcomes, gathered = .ok outcomes → outcomes.map Outcome.path = arguments.files) ∧
      (∀ path ∈ arguments.files, ∀ alone : Session, alone.files = before.files →
        ∃ single later code' after',
          (run terminal input (arguments.only path)).run alone = (.ok code', after') ∧
          (gather input (arguments.only path)).run alone = (.ok single, later) ∧
          (conclude terminal (arguments.only path) single).run later = (.ok code', after') ∧
          Agrees path gathered single ∧ after'.files.read path = after.files.read path) ∧
      closing? terminal arguments gathered = some text ∧
      after.warnings = before.warnings ++ noticesText before.files arguments.config notices ++ text ∧
      ToldOnce before.files arguments notices := by
  rcases separate.ends ended with
    ⟨message, started, gathers, rfl, rfl⟩ |
    ⟨outcomes, middle, text, started, gathers, done, shown, rfl, rfl⟩
  · -- Without the options file that was asked for, no run comes to its files.
    refine ⟨.error message, before, [], message ++ "\n", gathers, rfl, by simp, ?_, rfl, ?_,
      toldOnce_nil started⟩
    · intro path member alone same
      rw [← same] at separate started
      have single := separate.only member
      have ran := run_gather input single.inPlace single.undisturbed single.quiet
      simp only [Arguments.only, started] at ran
      refine ⟨.error message, alone, .error, alone.warned (message ++ "\n"),
        run_of_parts ran rfl, ran, rfl, rfl, ?_⟩
      rw [Session.warned_files, Session.warned_files, same]
    · simp [Session.warned]
  · -- With the options file, the run has an outcome for each of its files.
    have concludes := run_conclude terminal arguments outcomes middle
    simp only [shown] at concludes
    refine ⟨.ok outcomes, middle, runNotices before.files arguments, text, gathers, concludes, ?_, ?_,
      shown, ?_, toldOnce_runNotices⟩
    · intro _ same
      rw [← Except.ok.inj same]
      exact done.paths
    · intro path member alone same
      rw [← same] at separate started
      have decided := done.decided path member
      rw [← same] at decided
      obtain ⟨own, later, gathers', done'⟩ := separate.gathers_only member started decided
      -- The file has an outcome in the run on all files, and its line is that of the run alone.
      have agrees : ∀ outcome ∈ outcomes, outcome.path = path → own.untimed = outcome.untimed := by
        rintro outcome inside rfl
        have named : own.path = outcome.path := List.singleton_inj.mp done'.paths
        rw [done'.untimed_eq (List.mem_singleton_self own), done.untimed_eq inside, same, named]
        rfl
      obtain ⟨outcome, inside, named⟩ := List.mem_map.mp (show path ∈ outcomes.map Outcome.path by
        rwa [done.paths])
      -- The report of the run has a label for this status, so the run alone ends too.
      obtain ⟨text', shown'⟩ := exists_reportText?_only shown inside (agrees outcome inside named) path
      have concludes' := run_conclude terminal (arguments.only path) [own] later
      simp only [shown'] at concludes'
      refine ⟨.ok [own], later, _, later.warned text', run_of_parts gathers' concludes', gathers',
        concludes', ⟨own, rfl, agrees⟩, ?_⟩
      rw [Session.warned_files, Session.warned_files, done'.read_eq (List.mem_singleton_self path),
        done.read_eq member, same]
      rfl
    · rw [Session.warned, done.warnings]

/-- On the shelf, a file is changed, one cannot be written and one is not there, and each of them comes
to that alone. -/
theorem run_independent_shelf :
    ∃ after, (run false [] shelved).run { files := shelf } = (.ok .error, after) ∧
      ∀ path ∈ shelved.files, ∃ code' after',
        (run false [] (shelved.only path)).run { files := shelf } = (.ok code', after') ∧
        after'.files.read path = after.files.read path := by
  have ended := ended_of_code (show ((run false [] shelved).run
    { files := shelf }).1.toOption = some .error by decide +kernel)
  obtain ⟨_, _, _, _, -, -, -, singly, -⟩ := run_independent shelf_separate ended
  refine ⟨_, ended, fun path member => ?_⟩
  obtain ⟨_, _, code', after', ran, -, -, -, same⟩ := singly path member { files := shelf } rfl
  exact ⟨code', after', ran, same⟩

end Alone

end ImportOrder.Command
