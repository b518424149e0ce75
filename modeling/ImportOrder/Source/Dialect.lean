import ImportOrder.Path

/-! The two dialects of source files. -/

namespace ImportOrder

/-- A dialect: with types and casts in angle brackets, or with markup elements in their place. -/
inductive Dialect
  | typed
  | markup
deriving DecidableEq, Repr

namespace Dialect

/-- The extensions of the files that may hold markup. -/
def markupExtensions : List String := ["tsx", "js", "jsx", "mjs", "cjs"]

/-- The dialect of a file, by its extension in small letters. The extensions are ASCII, and no other
character turns into an ASCII letter of theirs. -/
def ofPath (path : String) : Dialect :=
  let extension := String.ofList ((extensionOf path).toList.map Char.toLower)
  if markupExtensions.contains extension then .markup else .typed

/-- The name of a dialect. -/
def name : Dialect → String
  | .typed => "typescript"
  | .markup => "tsx"

end Dialect

end ImportOrder
