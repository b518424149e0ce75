import ImportOrder.Attachment
import ImportOrder.Project.Resolver
import ImportOrder.Report.Log
import ImportOrder.Report.Outcome
import ImportOrder.Source.Imports
import ImportOrder.Surgery

/-! Sorting the imports of one source: reading it, cutting the imports out, and putting them back in
order. -/

namespace ImportOrder

/-- A source with its imports in order, what was counted, and a warning on the way. -/
structure Arrangement where
  text : Text
  imports : Nat
  groups : Nat
  warning : String
deriving DecidableEq, Repr

/-- Put the imports of a source in order, none if it has no imports. -/
def arrangeImports (classifier : Classifier) (options : Options) (path : String) (source : Text) :
    Except Failure (Option Arrangement) := do
  let statements ← (Source.imports path source).mapError .source
  let clips ← (Attachment.clips (.ofName options.commentMode) source statements).mapError .span
  -- Without imports nothing is cut, and the split pattern is not looked at.
  if clips.isEmpty then return none
  let rest ← (Surgery.cut ⟨source, false⟩ clips).mapError .refusal
  -- The imports are cut before the pattern is looked at, but nothing is kept of it if the pattern
  -- fails.
  let (groups, warning) ←
    (Sorter.process classifier Clip.specifier options clips).mapError .pattern
  let sorted ← (Surgery.insert (terminatorOf options.lineEnd) (.ofName options.location) rest
    groups).mapError .refusal
  return some ⟨sorted.text, clips.length, groups.length, warning⟩

/-- What a run works on: the files, the readings that its clock will give, the time for log entries,
and what it has written to its two outputs. -/
structure Session where
  files : FileTree
  clock : List Binary64 := []
  timestamp : String := ""
  output : String := ""
  warnings : String := ""

/-- A piece of work on a session, which keeps what was done before a failure. -/
abbrev Job := ExceptT Failure (StateM Session)

/-- Work goes on where the work before it ended, unless that has failed. -/
theorem Job.run_bind {α β : Type} (job : Job α) (next : α → Job β) (session : Session) :
    (job >>= next).run session = match job.run session with
      | (.ok value, later) => (next value).run later
      | (.error failure, later) => (.error failure, later) := by
  simp only [ExceptT.run, bind, ExceptT.bind, ExceptT.mk, StateT.bind]
  obtain ⟨result, later⟩ := job session
  cases result <;> rfl

namespace Session

/-- The files of the session. -/
def currentFiles : Job FileTree := return (← get).files

theorem run_currentFiles (session : Session) :
    currentFiles.run session = (.ok session.files, session) := rfl

/-- Replace the files of the session. -/
def setFiles (files : FileTree) : Job Unit := modify fun session => { session with files }

/-- Write to the output. -/
def print (text : String) : Job Unit :=
  modify fun session => { session with output := session.output ++ text }

/-- Write to the output for warnings. -/
def warn (text : String) : Job Unit :=
  modify fun session => { session with warnings := session.warnings ++ text }

/-- Read the clock; a clock without readings stands at zero. -/
def readClock : Job Binary64 := do
  let session ← get
  set { session with clock := session.clock.drop 1 }
  return session.clock.head?.getD (.zero false)

theorem run_readClock (session : Session) :
    readClock.run session = (.ok (session.clock.head?.getD (.zero false)),
      { session with clock := session.clock.drop 1 }) := rfl

end Session

/-- The whole milliseconds between two readings of a clock in seconds. -/
def millisecondsBetween (start stop : Binary64) : Int :=
  (((stop.sub start).mul (.ofInt 1000)).truncate?).getD 0

/-- Log a sort, if the options ask for it. -/
def logSort (options : LoggingOptions) (path : String) (source : Text) (result : SortResult) :
    Job Unit := do
  if options.enabled then
    let session ← get
    let entry := LogEntry.ofSort session.timestamp path result.status result.importCount
      result.groupCount source result.milliseconds
    let (files, done) := Log.record session.files options.directory entry
    -- Directories made before a failure stay.
    Session.setFiles files
    match done with
    | .ok () => return
    | .error failure => throw failure

/-- Sort the imports of a source. A project whose files are missing or broken leaves it as it is. -/
def sortImports (source : Text) (path : String) (options : Options) : Job SortResult := do
  let start ← Session.readClock
  let files ← Session.currentFiles
  -- What configures the project is read before the source is looked at.
  match Project.resolver files options.resolver path with
  | .error (.config error) =>
    return { status := Status.skipped, source, reason := error.message }
  -- Only configuration files are forgiven.
  | .error failure => throw failure
  | .ok resolver =>
    match ← arrangeImports (resolver.classifier files) options path source with
    | none => return { status := Status.unchanged, source }
    | some arrangement =>
      Session.warn arrangement.warning
      let changed := arrangement.text != source
      -- The clock is read before the sort is logged.
      let stop ← Session.readClock
      let result : SortResult :=
        { status := if changed then Status.sorted else Status.unchanged
          source := arrangement.text, changed, importCount := arrangement.imports
          groupCount := arrangement.groups, milliseconds := millisecondsBetween start stop }
      logSort options.logging path source result
      return result

/-- Read a file as text. -/
def readText (path : String) : Job Text := do
  match (← Session.currentFiles).read path with
  | .error error => throw (.file error path)
  | .ok bytes =>
    match Utf8.decode bytes with
    | .error fault => throw (.undecodable fault)
    | .ok text => return text

/-- Write a text to a file. -/
def writeText (path : String) (text : Text) : Job Unit := do
  match (← Session.currentFiles).write path (Utf8.encode text) with
  | .error error => throw (.file error path)
  | .ok files => Session.setFiles files

/-- Sort the imports of a file, which is written only if it changes. -/
def sortFile (path : String) (options : Options) : Job SortResult := do
  let source ← readText path
  let result ← sortImports source path options
  -- The file is written behind the log entry.
  if result.changed then writeText path result.source
  return result

end ImportOrder
