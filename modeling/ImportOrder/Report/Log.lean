import ImportOrder.Hash.Sha256
import ImportOrder.Json.Writer
import ImportOrder.Project.Error
import ImportOrder.Settings.Builtin
import ImportOrder.Text.Lines

/-! The log of sorts: one line of JSON for each of them. -/

namespace ImportOrder

/-- An entry of the log. -/
structure LogEntry where
  timestamp : String
  path : String
  status : String
  imports : Int
  groups : Int
  lines : Nat
  hash : String
  milliseconds : Int
deriving DecidableEq, Repr

namespace LogEntry

/-- The mark of a source: the first digits of its digest. -/
def sourceHash (source : Text) : String :=
  "sha256:" ++ String.ofList ((Sha256.hexDigest (Utf8.encode source)).toList.take 12)

/-- The entry of a sort at a time. -/
def ofSort (timestamp path status : String) (imports groups : Int) (source : Text)
    (milliseconds : Int) : LogEntry :=
  { timestamp, path, status, imports, groups, lines := Text.countLines source
    hash := sourceHash source, milliseconds }

/-- The document of an entry. -/
def toDocument (entry : LogEntry) : Document :=
  Settings.table
    [("timestamp", .text entry.timestamp), ("event", .text "sort"), ("file", .text entry.path),
     ("status", .text entry.status), ("imports", .int entry.imports), ("groups", .int entry.groups),
     ("code_length_lines", .int entry.lines), ("code_hash", .text entry.hash),
     ("sort_ms", .int entry.milliseconds)]

/-- The whole numbers of an entry. -/
def counts (entry : LogEntry) : List Int :=
  [entry.imports, entry.groups, entry.lines, entry.milliseconds]

/-- Whether a whole number of an entry has too many digits to be written. -/
def isLong (entry : LogEntry) : Bool :=
  entry.counts.any fun n => decide (Nat.pow 10 maxIntegerDigits ≤ n.natAbs)

/-- The line of an entry. -/
def line (entry : LogEntry) : Text := Json.line entry.toDocument ++ ['\n']

end LogEntry

namespace Log

/-- The name of the log file. -/
def fileName : String := "importsorter.jsonl"

/-- The path of the log file in a directory. -/
def fileIn (directory : String) : Path := (Path.ofString directory).append (Path.ofString fileName)

/-- Make the directory of a log. -/
def makeDirectory (files : FileTree) (directory : String) : Except FileError FileTree :=
  let path := Path.ofString directory
  FileTree.makeDirectories (path.names.length + 1) files path

/-- Add an entry to the log in a directory that is there. -/
def append (files : FileTree) (directory : String) (entry : LogEntry) : Except FileError FileTree :=
  files.append (fileIn directory).toString (Utf8.encode entry.line)

/-- Add an entry to the log in a directory, which is made if it is missing; an empty name asks for
no log. The line is written out before the log is opened. A failure keeps what was done before it. -/
def record (files : FileTree) (directory : String) (entry : LogEntry) :
    FileTree × Except Failure Unit :=
  if directory == "" then (files, .ok ())
  else if PathText.hasNull directory.toList then (files, .error .nullInPath)
  else
    match makeDirectory files directory with
    | .error error => (files, .error (.file error directory))
    | .ok files =>
      if entry.isLong then (files, .error .longInteger)
      else
        match append files directory entry with
        | .error error => (files, .error (.file error (fileIn directory).toString))
        | .ok files => (files, .ok ())

end Log

end ImportOrder
