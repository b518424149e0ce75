import ImportOrder.Text.Basic

/-! Path names: segments, extensions, joining and normal forms. -/

namespace ImportOrder

namespace PathText

/-- Whether a path name has a null character, with which it names nothing. -/
def hasNull (path : Text) : Bool := path.contains (Char.ofNat 0)

/-- The last segment of a path name, behind its last slash. -/
def lastSegment (path : Text) : Text := (path.reverse.takeWhile (· != '/')).reverse

/-- What follows the last dot of a segment, if something other than dots precedes that dot. -/
def segmentExtension (segment : Text) : Text :=
  let tail := (segment.reverse.takeWhile (· != '.')).reverse
  let stem := segment.take (segment.length - tail.length - 1)
  -- With nothing but dots in front of it the last dot starts a hidden name.
  if stem.any (· != '.') then tail else []

/-- The extension of a path name without its dot: empty for hidden files and names without one. -/
def extension (path : Text) : Text := segmentExtension (lastSegment path)

/-- One path name seen from another: an absolute one stands for itself. -/
def join (base path : Text) : Text :=
  -- The name in front is dropped altogether here.
  if path.head? == some '/' then path
  else if base.isEmpty || base.getLast? == some '/' then base ++ path
  else base ++ '/' :: path

/-- The slashes that an absolute path name keeps: two if it starts with exactly two, else one. -/
def rootMark (path : Text) : Text :=
  match path with
  | '/' :: '/' :: '/' :: _ => ['/']
  -- Two slashes at the start may mean something to the system, three or more do not.
  | '/' :: '/' :: _ => ['/', '/']
  | '/' :: _ => ['/']
  | _ => []

/-- Put segments together, with a slash between them. -/
def unite : List Text → Text
  | [] => []
  | [segment] => segment
  | segment :: rest => segment ++ '/' :: unite rest

/-- Leave out empty segments and single dots, and let two dots take back the segment in front of
them. The segments kept so far come in reverse; at the root there is nothing to take back. -/
def reduceFrom (rooted : Bool) : List Text → List Text → List Text
  | kept, [] => kept.reverse
  | kept, segment :: rest =>
    if segment.isEmpty || segment == ['.'] then reduceFrom rooted kept rest
    else if segment != ['.', '.'] then reduceFrom rooted (segment :: kept) rest
    else
      -- A relative name may lead up at its start, and then nothing can be taken back.
      match kept with
      | [] => reduceFrom rooted (if rooted then [] else [segment]) rest
      | last :: before =>
        if last == ['.', '.'] then reduceFrom rooted (segment :: kept) rest
        else reduceFrom rooted before rest

/-- The normal form of a path name; the empty one is the current directory. -/
def normalize (path : Text) : Text :=
  let mark := rootMark path
  match mark ++ unite (reduceFrom (!mark.isEmpty) [] (Text.splitOn '/' path)) with
  | [] => ['.']
  | result => result

end PathText

/-- A path: the slashes of its root, if it has one, and the names of its segments. -/
structure Path where
  root : Text
  names : List Text
deriving DecidableEq, Repr

namespace Path

/-- The path of a name; empty segments and single dots say nothing. -/
def ofText (text : Text) : Path :=
  ⟨PathText.rootMark text,
    (Text.splitOn '/' text).filter fun name => !name.isEmpty && name != ['.']⟩

/-- The path of a name. -/
def ofString (name : String) : Path := ofText name.toList

/-- The name of a path. -/
def toText (path : Path) : Text :=
  match path.root ++ PathText.unite path.names with
  | [] => ['.']
  | text => text

/-- The name of a path. -/
def toString (path : Path) : String := String.ofList path.toText

/-- A path seen from another one. -/
def append (base path : Path) : Path :=
  if path.root.isEmpty then ⟨base.root, base.names ++ path.names⟩ else path

/-- The directory that holds a path; a root holds itself. -/
def parent (path : Path) : Path := ⟨path.root, path.names.dropLast⟩

/-- The last name of a path, empty for a root. -/
def name (path : Path) : Text := path.names.getLast?.getD []

/-- The last dot of the last name with what follows, unless it starts or ends the name. -/
def suffix (path : Path) : Text :=
  let tail := (path.name.reverse.takeWhile (· != '.')).reverse
  let dot := path.name.length - tail.length
  -- One character at least stands in front of the dot.
  if 1 < dot && !tail.isEmpty then '.' :: tail else []

/-- The path with another last name; a path without one has none to change. -/
def withName? (path : Path) (name : Text) : Option Path :=
  if path.names.isEmpty then none else some ⟨path.root, path.names.dropLast ++ [name]⟩

/-- The names of a path seen from an absolute directory, two dots taking back one name. -/
def resolve (directory : List Text) (path : Path) : List Text :=
  -- The working directory counts only for a path that does not start at the root.
  let start := if path.root.isEmpty then directory else []
  PathText.reduceFrom true [] (start ++ path.names)

/-- The absolute path of names. -/
def absolute (names : List Text) : Path := ⟨['/'], names⟩

end Path

/-- The extension of a module or file name, without its dot. -/
def extensionOf (name : String) : String := String.ofList (PathText.extension name.toList)

end ImportOrder
