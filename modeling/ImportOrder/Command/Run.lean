import ImportOrder.Command.Arguments
import ImportOrder.Engine
import ImportOrder.Options.Problems
import ImportOrder.Report.Json
import ImportOrder.Report.Lines

/-! The command: sorting files in place, checking them, or filtering the standard input. -/

namespace ImportOrder.Command

/-- What a run ends with: all is well, files would change, or something failed. -/
inductive ExitCode
  | ok
  | changed
  | error
deriving DecidableEq, Repr

/-- The number of an exit code. -/
def ExitCode.toNat : ExitCode → Nat
  | .ok => 0
  | .changed => 1
  | .error => 2

/-- The options files that were loaded, by their paths: each is loaded and warned about once. -/
abbrev Loaded := List (String × Entries)

/-- An argument that was given and is not empty. -/
def given (argument : Option String) : Option String := argument.filter (· != "")

/-- The options file for a path: the one asked for, else the nearest. -/
def optionsFile? (files : FileTree) (config : Option String) (path : String) : Option Path :=
  match given config with
  | some config => some (Path.ofString config)
  -- Without a path the search starts in the working directory.
  | none => Project.findOptions? files (if path == "" then "." else path)

/-- Warn about the problems of an options file. -/
def warnProblems (source : String) (entries : Entries) : Job Unit :=
  match optionProblems (.mapping entries) with
  | .error excess => throw (.pattern excess)
  | .ok problems =>
    problems.forM fun problem => Session.warn s!"{source}: {problem.message}\n"

/-- The options for a path, loaded unless they are known; without an options file there are none. -/
def optionsFor (config : Option String) (loaded : Loaded) (path : String) :
    Job (Entries × Loaded) := do
  let files ← Session.currentFiles
  match optionsFile? files config path with
  | none => return ([], loaded)
  | some file =>
    let source := file.toString
    -- A file that is known is neither read nor warned about again.
    match loaded.lookup source with
    | some entries => return (entries, loaded)
    | none =>
      match Project.loadOptions files source with
      | .error failure => throw failure
      | .ok entries =>
        warnProblems source entries
        -- Only what was loaded is remembered: a file that failed is tried again.
        return (entries, (source, entries) :: loaded)

/-- The message of a failure that belongs to one file and does not end the run: a configuration that
cannot be used, or a source that cannot be read. -/
def reported? : Failure → Option String
  | .config error => some error.message
  | .source (.malformed path line column) => some (SourceError.malformed path line column).message
  | _ => none

/-- Do a piece of work and turn the failures of one file into messages. -/
def attempt {α : Type} (job : Job α) : Job (Except String α) :=
  tryCatch (Except.ok <$> job) fun failure =>
    match reported? failure with
    | some message => return .error message
    -- Every other failure ends the run.
    | none => throw failure

/-- Sort a source by the options for its path. What was loaded stays loaded if the source fails. -/
def sortWith (config : Option String) (loaded : Loaded) (source : Text) (path : String) :
    Job (Except String SortResult × Loaded) := do
  match ← attempt (optionsFor config loaded path) with
  -- Without options the source is not sorted.
  | .error message => return (.error message, loaded)
  | .ok (entries, loaded) =>
    let result ← attempt (sortImports source path (.ofDocument (.mapping entries)))
    return (result, loaded)

/-- The name of the standard input in reports. -/
def inputName : String := "<stdin>"

/-- Sort the standard input to the output. -/
def runInput (arguments : Arguments) (loaded : Loaded) (input : Text) : Job Outcome := do
  let path := (given arguments.filename).getD ""
  -- There is one source only, so what was loaded is not needed any more.
  let (result, _) ← sortWith arguments.config loaded (Text.unifyBreaks input) path
  if let .ok result := result then Session.print (String.ofList result.source)
  return ⟨if path == "" then inputName else path, result⟩

/-- The content of a file, or the message that it cannot be read. -/
def readSource (files : FileTree) (path : String) : Except String Text :=
  match files.read path with
  | .error error => .error s!"Cannot read {path}: {error.message path}"
  | .ok bytes => (Utf8.decode bytes).mapError fun fault => s!"Cannot read {path}: {fault.message}"

/-- Write a changed file, unless the run only checks. -/
def writeResult (check : Bool) (path : String) (result : SortResult) :
    Job (Except String SortResult) := do
  -- A file that would stay the same is not opened for writing.
  if check || !result.changed then return .ok result
  match (← Session.currentFiles).write path (Utf8.encode result.source) with
  | .error error => return .error s!"Cannot write {path}: {error.message path}"
  | .ok files =>
    Session.setFiles files
    return .ok result

/-- Sort one file. -/
def runFile (arguments : Arguments) (loaded : Loaded) (path : String) : Job (Outcome × Loaded) := do
  match readSource (← Session.currentFiles) path with
  | .error message => return (⟨path, .error message⟩, loaded)
  | .ok source =>
    match ← sortWith arguments.config loaded source path with
    | (.error message, loaded) => return (⟨path, .error message⟩, loaded)
    | (.ok result, loaded) =>
      let result ← writeResult arguments.check path result
      return (⟨path, result⟩, loaded)

/-- Sort files from left to right. -/
def runFiles (arguments : Arguments) : Loaded → List String → Job (List Outcome)
  | _, [] => return []
  | loaded, path :: rest => do
    let (outcome, loaded) ← runFile arguments loaded path
    let others ← runFiles arguments loaded rest
    return outcome :: others

/-- The status line of an outcome. -/
def outcomeLine (terminal check : Bool) (outcome : Outcome) : Except Settings.LookupError String :=
  match outcome.result with
  | .error message => .ok (Report.errorLine terminal outcome.path message)
  | .ok result => Report.resultLine terminal check outcome.path result

/-- Report outcomes as lines; the summary of the standard input is left out. -/
def reportLines (terminal : Bool) (arguments : Arguments) (outcomes : List Outcome)
    (summary : Summary) : Job Unit := do
  outcomes.forM fun outcome =>
    match outcomeLine terminal arguments.check outcome with
    | .ok line => Session.warn (line ++ "\n")
    | .error error => throw (.setting error)
  if !arguments.stdin then Session.warn (Report.summaryLine terminal summary ++ "\n")

/-- Report outcomes in the format asked for. Nothing is written in place for the standard input. -/
def report (terminal : Bool) (arguments : Arguments) (outcomes : List Outcome) (summary : Summary) :
    Job Unit :=
  match arguments.format with
  | .json =>
    let text := Report.json (arguments.check || arguments.stdin) outcomes summary
    Session.warn (String.ofList text ++ "\n")
  | .text => reportLines terminal arguments outcomes summary

/-- The exit code of a summary. -/
def exitCode (check : Bool) (summary : Summary) : ExitCode :=
  -- A failure outweighs every change.
  if summary.errors != 0 then .error
  else if check && summary.changed != 0 then .changed
  else .ok

/-- Load the options file that was asked for before any file, or the message that it cannot be
used. -/
def preload (arguments : Arguments) : Job (Except String Loaded) := do
  if (given arguments.config).isNone then return .ok []
  -- The file is loaded here once, and its warnings come before those of all sources.
  match ← attempt (optionsFor arguments.config [] "") with
  | .error message => return .error message
  | .ok (_, loaded) => return .ok loaded

/-- Sort the standard input, or the files that were named. -/
def runAll (arguments : Arguments) (loaded : Loaded) (input : Text) : Job (List Outcome) := do
  if arguments.stdin then
    let outcome ← runInput arguments loaded input
    return [outcome]
  runFiles arguments loaded arguments.files

/-- Do what arguments ask for. -/
def run (terminal : Bool) (input : Text) (arguments : Arguments) : Job ExitCode := do
  match ← preload arguments with
  | .error message =>
    Session.warn (message ++ "\n")
    return .error
  | .ok loaded =>
    let outcomes ← runAll arguments loaded input
    let summary := Summary.ofOutcomes outcomes
    report terminal arguments outcomes summary
    return exitCode arguments.check summary

/-- The command: read the arguments and do what they ask for. -/
def perform (terminal : Bool) (input : Text) (arguments : List String) : Job ExitCode :=
  match parseArguments arguments with
  | .error refusal => do
    Session.warn (refusalText refusal)
    return .error
  | .ok .help => do
    Session.print help
    return .ok
  | .ok .version => do
    Session.print version
    return .ok
  | .ok (.run arguments) => run terminal input arguments

end ImportOrder.Command
