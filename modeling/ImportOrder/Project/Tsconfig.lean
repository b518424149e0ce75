import ImportOrder.Project.Files

/-! Project files that extend each other: the options of a file with those of the files it extends.
Brackets in one file are limited, but the length of a chain of files is not. -/

namespace ImportOrder.Project

namespace ProjectKey

/-- The key of the compiler options. -/
def compilerOptions : String := "compilerOptions"

/-- The key of the base directory, inside the compiler options. -/
def baseUrl : String := "baseUrl"

/-- The key of the aliases, inside the compiler options. -/
def paths : String := "paths"

/-- The key of the files that are extended. -/
def extends_ : String := "extends"

end ProjectKey

/-- The extension of project files. -/
def projectSuffix : Text := ".json".toList

/-- The two items of a value that is a pair or can be taken for one: a list, a text or the keys of a
mapping. -/
def pairOf : Document → Except Failure (Document × Document)
  | .pair key value => .ok (key, value)
  | .list [key, value] => .ok (key, value)
  | .text text =>
    -- A text of two characters can be taken for a pair of them.
    match text.toList with
    | [key, value] => .ok (.text (String.ofList [key]), .text (String.ofList [value]))
    | _ => .error .badPair
  | .mapping [(key, _), (value, _)] => .ok (key, value)
  | .list _ => .error .badPair
  | .mapping _ => .error .badPair
  | _ => .error .notPairs

/-- The entries of pairs, added to those before them. -/
def entriesOfPairs : List Document → Entries → Except Failure Entries
  | [], entries => .ok entries
  | item :: rest, entries => do
    let (key, value) ← pairOf item
    if !key.canBeKey then throw .notPairs
    entriesOfPairs rest (Entries.insert key value entries)

/-- The entries of a value: of a mapping or a list of pairs; a value that says nothing has none. -/
def entriesOfValue (value : Document) : Except Failure Entries :=
  if !value.saysSomething then .ok []
  else
    match value with
    | .mapping entries => .ok entries
    | .list items => entriesOfPairs items []
    -- The first character of a text is no pair.
    | .text _ => .error .badPair
    | _ => .error .notPairs

/-- The place of a name that a file in a directory gives; a name with a null character has none. -/
def placeOf (directory : List Text) (name : String) : Except Failure (List Text) :=
  if PathText.hasNull name.toList then .error .nullInPath
  else .ok (Path.resolve directory (Path.ofString name))

/-- The compiler options that a file declares itself, with the base directory made absolute. -/
def ownOptions (names : List Text) (file : Entries) : Except Failure Entries := do
  let entries ← entriesOfValue ((file.get? ProjectKey.compilerOptions).getD .null)
  match entries.get? ProjectKey.baseUrl with
  | some (.text base) =>
    -- A base is seen from the directory of the file that declares it, not of the one that extends
    -- it.
    let place ← placeOf names.dropLast base
    let absolute := (Path.absolute place).toString
    return Entries.insert (.text ProjectKey.baseUrl) (.text absolute) entries
  | _ => return entries

/-- The files that a file says it extends: one name, a list of them, or the keys of a mapping. -/
def extendsOf (file : Entries) : Except Failure (List Document) :=
  let value := (file.get? ProjectKey.extends_).getD .null
  if !value.saysSomething then .ok []
  else
    match value with
    | .text _ => .ok [value]
    | .list items => .ok items
    | .mapping entries => .ok (entries.map Prod.fst)
    | _ => .error .notPairs

/-- The file that a name in a directory stands for, none if it names a package. A name that leads to
no file gets the extension of project files; one that is too long to be looked up is a failure. -/
def extendsPath (files : FileTree) (directory : List Text) (target : String) :
    Except Failure (Option (List Text)) := do
  if target.toList.head? != some '.' then return none
  let names ← placeOf directory target
  let path := Path.absolute names
  let found ← (files.checkFile path.toString).mapError (.file · path.toString)
  if found || path.suffix == projectSuffix then return some names
  match path.withName? (path.name ++ projectSuffix) with
  | some path => return some path.names
  | none => throw (.nameless path.toString)

/-- The places of the project files loaded so far in one go. -/
abbrev Seen := List (List Text)

/-- Collect the options of extended files from left to right, each loaded by `load`; later ones win.
-/
def collect (files : FileTree) (directory : List Text)
    (load : Seen → List Text → Except Failure (Entries × Seen)) :
    Seen → Entries → List Document → Except Failure (Entries × Seen)
  | seen, merged, [] => .ok (merged, seen)
  | seen, merged, .text target :: rest => do
    match ← extendsPath files directory target with
    | none => collect files directory load seen merged rest
    | some names =>
      let (parent, seen) ← load seen names
      let options := ((parent.get? ProjectKey.compilerOptions).getD .null).entries
      collect files directory load seen (merged.update options) rest
  | seen, merged, _ :: rest => collect files directory load seen merged rest

/-- Load a project file with the files that it extends. No file is loaded twice in one go: a second
time is reported as a circle. A place with a null character in it is none. The fuel outlasts every
chain of different files. -/
def loadFrom (files : FileTree) : (fuel : Nat) → Seen → List Text → Except Failure (Entries × Seen)
  | 0, _, names =>
    let path := (Path.absolute names).toString
    .error (.ofConfig path (.circular path))
  | fuel + 1, seen, names => do
    let path := (Path.absolute names).toString
    -- What was loaded on another branch counts as seen, too.
    if seen.contains names then throw (.ofConfig path (.circular path))
    let seen := names :: seen
    if names.any PathText.hasNull then throw .nullInPath
    let value ← loadJson files path true
    let file ← requireMapping path value
    -- The own options are looked at before what the file extends.
    let own ← ownOptions names file
    let targets ← extendsOf file
    let (merged, seen) ← collect files names.dropLast (loadFrom files fuel) seen [] targets
    -- What a file declares itself comes last and wins.
    let options := Document.mapping (merged.update own)
    return (Entries.insert (.text ProjectKey.compilerOptions) options file, seen)

/-- The place that a project path stands for. A path with a null character cannot be resolved, and
its names stay as they are written, the null character among them. -/
def startOf (files : FileTree) (path : String) : List Text :=
  let written := Path.ofString path
  if PathText.hasNull path.toList then written.names.filter (· != ['.', '.'])
  else Path.resolve files.directory written

/-- Load a project file with the files that it extends. -/
def loadProject (files : FileTree) (path : String) : Except Failure Entries := do
  -- Each file of a chain but the last is an entry of the tree, so the fuel does not run out.
  let (entries, _) ← loadFrom files (files.entries.length + 2) [] (startOf files path)
  return entries

end ImportOrder.Project
