import ImportOrder.Command.Reach
import ImportOrder.Report.Timestamp
import Std.Time.DateTime.Timestamp

/-! The command on the files of a machine: gather what a run may look at, run on that, and write
back what has changed. -/

namespace ImportOrder.Machine

/-- The files gathered so far, and the places where nothing was found. -/
structure Gathered where
  files : FileTree
  absent : List (List Text) := []

/-- What is at a path. -/
def lookUp (path : String) : IO (Option Entry) := do
  match ← (IO.FS.readBinFile path).toBaseIO with
  | .ok content => return some (.file content.toList)
  | .error (.inappropriateType ..) => return some .directory
  | .error _ => return none

/-- Whether a file can be opened for writing. -/
def canWrite (path : String) : IO Bool := do
  match ← (IO.FS.Handle.mk path .readWrite).toBaseIO with
  | .ok _ => return true
  | .error _ => return false

/-- Gather what is at a place, unless it was looked at before. -/
def gather (known : Gathered) (place : List Text) : IO Gathered := do
  if (known.files.entry? place).isSome || known.absent.contains place then return known
  let path := (Path.absolute place).toString
  match ← lookUp path with
  | none => return { known with absent := place :: known.absent }
  | some entry =>
    let files := known.files.put place entry
    -- A file that cannot be written is kept as one, so that the run fails as it would here.
    if entry == .directory || (← canWrite path) then return { known with files }
    return { known with files := { files with locked := place :: files.locked } }

/-- Gather what a run may look at, until nothing new comes up. -/
partial def gatherAll (input : Text) (arguments : Command.Arguments) (known : Gathered) :
    IO Gathered := do
  let paths := "." :: Command.Reach.run known.files input arguments
  let places := paths.flatMap known.files.placesOn
  let next ← (known.files.directory :: places).foldlM gather known
  let count := fun (gathered : Gathered) => gathered.files.entries.length + gathered.absent.length
  if count next == count known then return next else gatherAll input arguments next

/-- Write the directories and files of a tree that differ from those before. -/
def writeBack (before after : FileTree) : IO Unit := do
  -- Directories come first: the files may lie in new ones.
  for (place, entry) in after.entries do
    if entry == .directory && (before.entry? place).isNone then
      IO.FS.createDirAll (Path.absolute place).toString
  for (place, content) in after.changedFiles before do
    IO.FS.writeBinFile (Path.absolute place).toString ⟨content.toArray⟩

/-- The time now, as log entries show it. -/
def timestamp : IO String := do
  let now ← Std.Time.Timestamp.now
  return (Moment.ofMicroseconds (now.toNanosecondsSinceUnixEpoch.val / 1000).toNat).timestamp

/-- The readings of a clock that moves on by the same step each time it is read. -/
def evenClock (count milliseconds : Nat) : List Binary64 :=
  (List.range count).map fun i => .ofRatio false (i * milliseconds) 1000

/-- The arguments of a run, none if another request or a mistake keeps the command from running. -/
def runArguments (arguments : List String) : Option Command.Arguments :=
  match Command.parseArguments arguments with
  | .ok (.run arguments) => some arguments
  | _ => none

/-- The standard input as text, if it is asked for. -/
def readInput (arguments : Option Command.Arguments) : IO (Except Utf8.Fault Text) := do
  if !arguments.any Command.Arguments.stdin then return .ok []
  return Utf8.decode (← (← IO.getStdin).readBinToEnd).toList

/-- The files that a run may look at. -/
def filesFor (input : Text) (arguments : Option Command.Arguments) : IO FileTree := do
  let directory := (Path.ofString (← IO.currentDir).toString).names
  match arguments with
  | none => return { directory }
  | some arguments => return (← gatherAll input arguments { files := { directory } }).files

/-- Try a job and tell which clock it needs: readings that share the time it took among the sorts.
-/
def rehearse {α : Type} (job : Job α) (session : Session) (sorts : Nat) : IO (List Binary64) := do
  let readings := 2 * sorts
  let start ← IO.monoMsNow
  let trial ← IO.lazyPure fun _ => (job.run.run { session with clock := evenClock readings 0 }).2
  let used := readings - trial.clock.length
  let stop ← IO.monoMsNow
  return evenClock readings (2 * (stop - start) / max 1 used)

/-- Run the command, write back what has changed, and print what there is to say. -/
def run (input : Text) (arguments : List String) : IO UInt32 := do
  let terminal ← (← IO.getStderr).isTty
  let files ← filesFor input (runArguments arguments)
  let session : Session := { files, timestamp := ← timestamp }
  let job := Command.perform terminal input arguments
  let clock ← rehearse job session (arguments.length + 1)
  let (result, after) := job.run.run { session with clock }
  writeBack files after.files
  IO.print after.output
  IO.eprint after.warnings
  match result with
  | .ok code => return code.toNat.toUInt32
  | .error failure =>
    IO.eprintln failure.message
    return 1

end ImportOrder.Machine

open ImportOrder in
/-- The command. -/
def main (arguments : List String) : IO UInt32 := do
  match ← Machine.readInput (Machine.runArguments arguments) with
  | .ok input => Machine.run input arguments
  | .error fault =>
    IO.eprintln fault.message
    return 1
