import ImportOrder.Json.Comments
import ImportOrder.Options.Reading
import ImportOrder.Project.Error
import ImportOrder.Text.Lines
import ImportOrder.Yaml.Reader

/-! Finding the files that configure a project and reading what they hold. -/

namespace ImportOrder.Project

/-- The name of the manifest. -/
def manifestName : String := "package.json"

/-- The name of the options file. -/
def optionsName : String := ".importsorter.yaml"

/-- The directory that a search starts in: a path that is a directory, else the one that holds it.
-/
def searchStart (files : FileTree) (path : String) : List Text :=
  let names := Path.resolve files.directory (Path.ofString path)
  -- What is not there is taken for a file.
  if files.isDirectoryAt names then names else names.dropLast

/-- A directory and all those above it, the nearest first. -/
def ancestors (names : List Text) : List (List Text) :=
  ((List.range (names.length + 1)).map names.take).reverse

/-- Where a file with a name may be: in the directory of a path or above it, the nearest place
first. -/
def candidates (files : FileTree) (name path : String) : List Path :=
  (ancestors (searchStart files path)).map fun directory =>
    (Path.absolute directory).append (Path.ofString name)

/-- The nearest file with a name in the directory of a path or above it. -/
def find? (files : FileTree) (name path : String) : Option Path :=
  (candidates files name path).find? fun candidate => files.isFile candidate.toString

/-- The first of some paths that leads to a file. A name that is too long ends the search. -/
def firstFile (files : FileTree) : List Path → Except Failure (Option Path)
  | [] => .ok none
  | candidate :: rest => do
    -- Asking can fail, so the paths are asked one by one and not all beforehand.
    let path := candidate.toString
    if ← (files.checkFile path).mapError (.file · path) then return some candidate
    firstFile files rest

/-- Search for the nearest file with a name in the directory of a path or above it. The path itself
is looked at first; one with a null character is no path. -/
def search (files : FileTree) (name path : String) : Except Failure (Option Path) := do
  if PathText.hasNull path.toList then throw .nullInPath
  let start := (Path.absolute (Path.resolve files.directory (Path.ofString path))).toString
  -- Only the failure matters here: where the search starts is told by the candidates.
  let _ ← (files.checkDirectory start).mapError (.file · start)
  firstFile files (candidates files name path)

/-- The options file that is nearest to a path. -/
def findOptions? (files : FileTree) (path : String) : Option Path := find? files optionsName path

/-- Read a JSON file, with comments and trailing commas if they are allowed. A text in which too many
brackets are open at a time is a failure of another kind than a file that cannot be used. -/
def loadJson (files : FileTree) (path : String) (comments : Bool) : Except Failure Document :=
  if PathText.hasNull path.toList then .error (.ofConfig path .nullInPath)
  else
    match files.read path with
    | .error error => .error (.ofConfig path (.file error path))
    | .ok bytes =>
      match Utf8.decode bytes with
      | .error fault => .error (.ofConfig path (.undecodable fault))
      | .ok decoded =>
        let text := Text.unifyBreaks decoded
        -- Comments are stripped before the depth is asked, so brackets in them do not count.
        let text := if comments then Json.strip text else text
        if Json.isTooDeep files.depth text then .error .tooDeep
        else
          match Json.read text with
          | .error fault => .error (.ofConfig path (.json text fault))
          | .ok value => .ok value

/-- The entries of a file that has to hold a mapping. -/
def requireMapping (path : String) : Document → Except Failure Entries
  | .mapping entries => .ok entries
  | value => .error (.ofConfig path (.notMapping value.kindName))

/-- The sections of a manifest that name dependencies. -/
def manifestSections : List String := ["dependencies", "devDependencies", "peerDependencies"]

/-- The names of the dependencies of a manifest, section by section. -/
def dependenciesOf (manifest : Entries) : List String :=
  -- A section that is no mapping has no entries.
  manifestSections.flatMap fun name =>
    ((manifest.get? name).getD .null).entries.map fun (key, _) => key.plain

/-- Read the names of the dependencies of a manifest. -/
def loadDependencies (files : FileTree) (path : String) : Except Failure (List String) := do
  let manifest ← requireMapping path (← loadJson files path false)
  return dependenciesOf manifest

/-- Read an options file; an empty one has no options. A path with a null character, a file that is
not text and a scalar that is no value are failures of another kind than a file that cannot be used.
-/
def loadOptions (files : FileTree) (path : String) : Except Failure Entries :=
  if PathText.hasNull path.toList then .error .nullInPath
  else
    match files.read path with
    | .error error => .error (.ofConfig path (.file error path))
    | .ok bytes =>
      match Utf8.decode bytes with
      | .error fault => .error (.undecodable fault)
      | .ok text =>
        match Yaml.read (Text.unifyBreaks text) with
        | .error .malformed => .error (.ofConfig path .yaml)
        -- A scalar that claims to be a value and is none breaks no rule of the format.
        | .error fault => .error (.yaml fault)
        -- A file without a document says the same as one without entries.
        | .ok .null => .ok []
        | .ok value => requireMapping path value

end ImportOrder.Project
