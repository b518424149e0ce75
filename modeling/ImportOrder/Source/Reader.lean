import ImportOrder.Source.Grammar

/-! The syntax tree of a source text. -/

namespace ImportOrder.Source

/-- The kind of the root. -/
def rootKind : String := "program"

/-- The kind of the line that names an interpreter. -/
def interpreterKind : String := "hash_bang_line"

/-- How deep rules may go for a text of a length: far deeper than a text of that length can nest. -/
def fuelFor (length : Nat) : Nat := 256 * (length + 16)

/-- The statement at a place. -/
def statement? (dialect : Dialect) (cursor : Cursor) : Option (List Node × Cursor) :=
  (Rule.run (Grammar.rules dialect) (fuelFor cursor.rest.length) (.ref .statement) ⟨[], cursor⟩).map
    fun scan => (scan.nodes.reverse, scan.cursor)

/-- The statements and comments from a place on, up to the first that cannot be read. -/
def nodesFrom (dialect : Dialect) : (fuel : Nat) → Cursor → List Node
  | 0, _ => []
  | fuel + 1, cursor =>
    let next := cursor.skipWhile isSourceBlank
    if next.rest.isEmpty then []
    else
      match next.comment? <|> next.markupComment? with
      | some (node, behind) => node :: nodesFrom dialect fuel behind
      | none =>
        match statement? dialect next with
        | some (nodes, behind) => nodes ++ nodesFrom dialect fuel behind
        -- Nothing is read behind a fault: one node takes the rest of the text.
        | none => [Cursor.nodeTo Node.errorKind next (next.advance next.rest.length)]

/-- The line at the start of a source that names an interpreter, and the place behind it. -/
def interpreterLine (cursor : Cursor) : List Node × Cursor :=
  let next := cursor.skipWhile isSourceBlank
  -- Blanks in front of the line do not keep it from being one.
  if Text.startsWith next.rest ['#', '!'] then
    let behind := next.skipWhile fun c => c != '\n' && c != '\r'
    ([Cursor.nodeTo interpreterKind next behind], behind)
  else ([], cursor)

/-- The syntax tree of a source; what cannot be read is an error node at its end. -/
def read (dialect : Dialect) (text : Text) : Node :=
  let (line, cursor) := interpreterLine ⟨text, 0⟩
  let children := line ++ nodesFrom dialect (text.length + 1) cursor
  Scan.wrap rootKind children ⟨text, 0⟩

end ImportOrder.Source
