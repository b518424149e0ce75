import ImportOrder.Source.Reader
import ImportOrder.Tree.Imports

/-! The import statements of a source text. -/

namespace ImportOrder.Source

/-- The import statements of a source, unless it cannot be read; the path tells its dialect. -/
def imports (path : String) (text : Text) : Except SourceError (List ImportStatement) := do
  let root := read (Dialect.ofPath path) text
  Tree.check path text root
  Tree.imports text root

end ImportOrder.Source
