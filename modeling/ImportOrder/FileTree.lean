import ImportOrder.Path
import ImportOrder.Text.Quoted
import ImportOrder.Text.Utf8

/-! Files and directories as a value, and what reading and writing them does. There are no links and
no special files, files that are there can be read, and nothing but the program changes them. -/

namespace ImportOrder

/-- What a path leads to. -/
inductive Entry
  | directory
  | file (content : Bytes)
deriving DecidableEq, Repr

/-- Why a path cannot be used. -/
inductive FileError
  | notFound
  | denied
  | alreadyThere
  | notDirectory
  | isDirectory
  | nameTooLong
deriving DecidableEq, Repr

/-- The number and the wording of an error. -/
def FileError.wording : FileError → Nat × String
  | .notFound => (2, "No such file or directory")
  | .denied => (13, "Permission denied")
  | .alreadyThere => (17, "File exists")
  | .notDirectory => (20, "Not a directory")
  | .isDirectory => (21, "Is a directory")
  | .nameTooLong => (36, "File name too long")

/-- The message about a path that cannot be used. -/
def FileError.message (error : FileError) (path : String) : String :=
  let (number, wording) := error.wording
  s!"[Errno {number}] {wording}: {quote path}"

/-- Files and directories by their names from the root down, the files that cannot be written, the
working directory, and how many brackets may be open at a time in a file that is decoded. -/
structure FileTree where
  entries : List (List Text × Entry) := []
  locked : List (List Text) := []
  directory : List Text := []
  depth : Nat := 960
deriving Repr

namespace FileTree

/-- How many bytes a name may have. -/
def maxNameBytes : Nat := 255

/-- How many bytes a path may have. -/
def maxPathBytes : Nat := 4095

/-- What is at some names from the root down. -/
def entry? (tree : FileTree) (names : List Text) : Option Entry :=
  if names.isEmpty then some .directory
  else (tree.entries.find? fun (known, _) => known == names).map Prod.snd

/-- Whether a directory is at some names. -/
def isDirectoryAt (tree : FileTree) (names : List Text) : Bool :=
  tree.entry? names == some .directory

/-- Whether a file is at some names. -/
def isFileAt (tree : FileTree) (names : List Text) : Bool :=
  match tree.entry? names with
  | some (.file _) => true
  | _ => false

/-- Follow names from a place; a name is looked up only in a directory, and two dots lead up. A name
that is too long is refused where it would be looked up. -/
def walk (tree : FileTree) (place : List Text) : List Text → Except FileError (List Text)
  | [] => .ok place
  | name :: rest =>
    if !tree.isDirectoryAt place then .error .notDirectory
    -- Empty names and single dots stay where they are, but only in a directory.
    else if name.isEmpty || name == ['.'] then walk tree place rest
    else if name == ['.', '.'] then walk tree place.dropLast rest
    else if maxNameBytes < Utf8.length name then .error .nameTooLong
    else if (tree.entry? (place ++ [name])).isNone then .error .notFound
    else walk tree (place ++ [name]) rest

/-- Where a path starts. -/
def start (tree : FileTree) (path : Text) : List Text :=
  if path.head? == some '/' then [] else tree.directory

/-- The place that a path leads to. -/
def locate (tree : FileTree) (path : String) : Except FileError (List Text) :=
  let text := path.toList
  if text.isEmpty then .error .notFound
  else if maxPathBytes < Utf8.length text then .error .nameTooLong
  else walk tree (tree.start text) (Text.splitOn '/' text)

/-- The places that a path passes on its way, its end included. -/
def placesOn (tree : FileTree) (path : String) : List (List Text) :=
  let names := Text.splitOn '/' path.toList
  (List.range names.length).map fun i =>
    Path.resolve (tree.start path.toList) ⟨[], names.take (i + 1)⟩

/-- The place that a path leads to, none if it leads nowhere. A path with a null character leads
nowhere, and a name that is too long is a failure. -/
def seek (tree : FileTree) (path : String) : Except FileError (Option (List Text)) :=
  if PathText.hasNull path.toList then .ok none
  else
    match tree.locate path with
    | .ok names => .ok (some names)
    | .error .nameTooLong => .error .nameTooLong
    -- Every other failure says that nothing is there.
    | .error _ => .ok none

/-- Ask whether a path leads to a file. -/
def checkFile (tree : FileTree) (path : String) : Except FileError Bool :=
  (tree.seek path).map fun place => place.any tree.isFileAt

/-- Ask whether a path leads to a directory. -/
def checkDirectory (tree : FileTree) (path : String) : Except FileError Bool :=
  (tree.seek path).map fun place => place.any tree.isDirectoryAt

/-- Whether a path leads to a file, for those who take every failure for a no. -/
def isFile (tree : FileTree) (path : String) : Bool := (tree.checkFile path).toOption.getD false

/-- Whether a path leads to a directory. -/
def isDirectory (tree : FileTree) (path : String) : Bool :=
  match tree.locate path with
  | .ok names => tree.isDirectoryAt names
  | .error _ => false

/-- The content of a file. -/
def read (tree : FileTree) (path : String) : Except FileError Bytes := do
  let names ← tree.locate path
  match tree.entry? names with
  | some (.file content) => return content
  | some .directory => throw .isDirectory
  | none => throw .notFound

/-- Replace the entry at some names, or add it. -/
def putEntry (names : List Text) (entry : Entry) :
    List (List Text × Entry) → List (List Text × Entry)
  | [] => [(names, entry)]
  | (known, old) :: rest =>
    if known == names then (known, entry) :: rest else (known, old) :: putEntry names entry rest

/-- The tree with another entry at some names. -/
def put (tree : FileTree) (names : List Text) (entry : Entry) : FileTree :=
  { tree with entries := putEntry names entry tree.entries }

/-- The tree with an entry at some names and all directories above it. -/
def plant (tree : FileTree) (names : List Text) (entry : Entry) : FileTree :=
  let above := (List.range (names.length - 1)).map fun i => names.take (i + 1)
  let grown := above.foldl (fun tree names =>
    if (tree.entry? names).isSome then tree else tree.put names .directory) tree
  if names.isEmpty then grown else grown.put names entry

/-- The tree without the entry at some names. -/
def remove (tree : FileTree) (names : List Text) : FileTree :=
  { tree with entries := tree.entries.filter fun (known, _) => known != names }

/-- The place of a file that is to be written: its directory has to be there. -/
def target (tree : FileTree) (path : String) : Except FileError (List Text) := do
  let text := path.toList
  if text.isEmpty then throw .notFound
  if maxPathBytes < Utf8.length text then throw .nameTooLong
  let names := Text.splitOn '/' text
  -- The name of the file itself need not be known yet.
  let place ← walk tree (tree.start text) names.dropLast
  if !tree.isDirectoryAt place then throw .notDirectory
  let name := names.getLast?.getD []
  -- A path that ends in a slash or in dots names a directory.
  if name.isEmpty || name == ['.'] || name == ['.', '.'] then throw .isDirectory
  if maxNameBytes < Utf8.length name then throw .nameTooLong
  if tree.isDirectoryAt (place ++ [name]) then throw .isDirectory
  return place ++ [name]

/-- Open a file for writing and change its content; a file that is not there is empty. -/
def change (tree : FileTree) (path : String) (f : Bytes → Bytes) : Except FileError FileTree := do
  -- The permission is asked for before the place.
  if tree.locked.contains (Path.resolve tree.directory (Path.ofString path)) then throw .denied
  let names ← tree.target path
  let old := match tree.entry? names with
    | some (.file content) => content
    | _ => []
  return tree.put names (.file (f old))

/-- Give a file a content. -/
def write (tree : FileTree) (path : String) (content : Bytes) : Except FileError FileTree :=
  tree.change path fun _ => content

/-- Add to the content of a file. -/
def append (tree : FileTree) (path : String) (content : Bytes) : Except FileError FileTree :=
  tree.change path (· ++ content)

/-- Make one directory. -/
def makeDirectory (tree : FileTree) (path : String) : Except FileError FileTree :=
  match tree.locate path with
  | .ok _ => .error .alreadyThere
  | .error _ => do
    let names ← tree.target path
    return tree.put names .directory

/-- Make a directory unless it is there, and the directories above it that are missing. -/
def makeDirectories : (fuel : Nat) → FileTree → Path → Except FileError FileTree
  | fuel, tree, path =>
    match tree.makeDirectory path.toString with
    | .ok tree => .ok tree
    | .error .notFound =>
      match fuel with
      | 0 => .error .notFound
      | fuel + 1 => do
        let tree ← makeDirectories fuel tree path.parent
        -- A path with dots in it may be there once those above it are.
        if tree.isDirectory path.toString then return tree else tree.makeDirectory path.toString
    -- A directory that is there is what was asked for.
    | .error error => if tree.isDirectory path.toString then .ok tree else .error error

/-- The files whose content differs from that in an earlier tree. -/
def changedFiles (tree before : FileTree) : List (List Text × Bytes) :=
  tree.entries.filterMap fun (names, entry) =>
    match entry with
    | .file content => if before.entry? names == some entry then none else some (names, content)
    | .directory => none

end FileTree

end ImportOrder
