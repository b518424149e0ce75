import ImportOrder.Text.Utf8
import ImportOrder.Statement
import ImportOrder.Tree.Node

/-! The import statements of a syntax tree, with the comments beside them. -/

namespace ImportOrder

/-- Why the import statements of a source cannot be told. -/
inductive SourceError
  | malformed (path : String) (line column : Nat)
  | splitCharacter
deriving DecidableEq, Repr

namespace SourceError

/-- The message about a source that cannot be parsed. -/
def parseMessage (path detail : String) : String := s!"Cannot parse {path}: {detail}"

/-- The place of a fault, in words. -/
def placeMessage (line column : Nat) : String := s!"syntax error at line {line}, column {column}"

/-- The wording of an error. -/
def message : SourceError → String
  | .malformed path line column => parseMessage path (placeMessage line column)
  | .splitCharacter => "a node of the tree cuts a character"

end SourceError

namespace Tree

/-- The kind of an import statement. -/
def importKind : String := "import_statement"

/-- The kinds of comments. -/
def commentKinds : List String := ["comment", "html_comment"]

/-- The role of the string that names the module. -/
def sourceRole : String := "source"

/-- Whether a node is a comment. -/
def isComment (node : Node) : Bool := commentKinds.contains node.kind

/-- Refuse a tree with errors, naming the place of the first one. -/
def check (path : String) (text : Text) (root : Node) : Except SourceError Unit :=
  if root.hasError then
    -- The root stands in if no node is a fault itself.
    let node := root.firstFault?.getD root
    let (row, column) := Utf8.pointOf text node.start
    .error (.malformed path (row + 1) (column + 1))
  else .ok ()

/-- The comment of a node. -/
def commentOf (text : Text) (node : Node) : Comment :=
  { start := Utf8.charOffset text node.start
    stop := Utf8.charOffset text node.stop
    startLine := (Utf8.pointOf text node.start).1 + 1
    stopLine := (Utf8.pointOf text node.stop).1 + 1 }

/-- The text that a node covers. -/
def nodeText (text : Text) (node : Node) : Except SourceError Text :=
  -- A node is known by its bytes, which need not be whole characters.
  match Utf8.decode (((Utf8.encode text).take node.stop).drop node.start) with
  | .ok found => .ok found
  | .error _ => .error .splitCharacter

/-- The module that a statement names: what stands between the quotes of its string. -/
def specifier? (text : Text) (node : Node) : Except SourceError (Option String) :=
  match node.child? sourceRole with
  | none => .ok none
  | some source => do
    -- The quotes are one character each.
    let literal ← nodeText text source
    return some (String.ofList (literal.drop 1).dropLast)

/-- The comments inside a statement that stand in front of its first token. -/
def innerLeading (first : Node) (children : List Node) : List Node :=
  children.filter fun node => isComment node && node.stop ≤ first.start

/-- The comments inside a statement that stand behind its last token. -/
def innerTrailing (first last : Node) (children : List Node) : List Node :=
  children.filter fun node =>
    -- A comment that stands in front of the first token is not taken once more.
    isComment node && !(node.stop ≤ first.start) && last.stop ≤ node.start

/-- The import statement of a node between its neighbours, those in front from right to left. The
comments inside it follow the leading ones and, in reverse, precede the trailing ones. -/
def statement? (text : Text) (before : List Node) (node : Node) (behind : List Node) :
    Except SourceError (Option ImportStatement) := do
  if node.kind != importKind then return none
  let some specifier ← specifier? text node | return none
  -- The edges of a statement are its tokens: comments at its ends lie outside of it.
  let body := node.children.filter fun child => !isComment child
  match body.head?, body.getLast? with
  | some first, some last =>
    let leading := (before.takeWhile isComment).reverse ++ innerLeading first node.children
    let trailing := (innerTrailing first last node.children).reverse ++ behind.takeWhile isComment
    return some
      { start := Utf8.charOffset text first.start
        stop := Utf8.charOffset text last.stop
        startLine := (Utf8.pointOf text first.start).1 + 1
        stopLine := (Utf8.pointOf text last.stop).1 + 1
        specifier
        leading := leading.map (commentOf text)
        trailing := trailing.map (commentOf text) }
  | _, _ => return none

/-- The import statements of the nodes that follow those in `before`. -/
def importsFrom (text : Text) (before : List Node) :
    List Node → Except SourceError (List ImportStatement)
  | [] => .ok []
  | node :: rest => do
    -- The nodes in front come with the nearest one first.
    let found ← statement? text before node rest
    let others ← importsFrom text (node :: before) rest
    return match found with
      | some statement => statement :: others
      | none => others

/-- The import statements of a tree, from left to right. -/
def imports (text : Text) (root : Node) : Except SourceError (List ImportStatement) :=
  importsFrom text [] root.children

end Tree

end ImportOrder
