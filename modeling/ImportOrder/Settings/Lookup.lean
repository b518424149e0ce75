import ImportOrder.FileTree
import ImportOrder.Options.Reading
import ImportOrder.Settings.Builtin
import ImportOrder.Text.Lines
import ImportOrder.Yaml.Reader

/-! Looking settings up by dotted keys, in the table of the program or in a file that replaces it.
-/

namespace ImportOrder.Settings

/-- The kinds of values that can be asked for. -/
inductive Kind
  | text
  | int
  | bool
  | list
  | mapping
deriving DecidableEq, Repr

/-- The name of a kind. -/
def Kind.name : Kind → String
  | .text => "str"
  | .int => "int"
  | .bool => "bool"
  | .list => "list"
  | .mapping => "dict"

/-- Whether a value is of a kind; a truth value is no number. -/
def Kind.holds (kind : Kind) (value : Document) : Bool := value.kindName == kind.name

/-- Why a setting cannot be had. -/
inductive LookupError
  | missing (walked key : String)
  | mistyped (key found : String) (wanted : Kind)
deriving DecidableEq, Repr

/-- The wording of an error. -/
def LookupError.message : LookupError → String
  | .missing walked key => s!"no config value at {quote walked} (looking up {quote key})"
  | .mistyped key found wanted => s!"config value {quote key} is {found}, wanted {wanted.name}"

/-- Walk from a value along the segments of a key; `walked` are those passed before. -/
def walk (key : String) (walked : List Text) : Document → List Text → Except LookupError Document
  | value, [] => .ok value
  | value, segment :: rest =>
    -- A value that is no mapping has no entries to go on with.
    match value.entries.get? (String.ofList segment) with
    | none =>
      .error (.missing (String.ofList (List.intercalate ['.'] (walked ++ [segment]))) key)
    | some next => walk key (walked ++ [segment]) next rest

/-- The value at a dotted key. -/
def get (settings : Entries) (key : String) : Except LookupError Document :=
  walk key [] (.mapping settings) (Text.splitOn '.' key.toList)

/-- The value at a dotted key, which has to be of a kind. -/
def getKind (settings : Entries) (kind : Kind) (key : String) : Except LookupError Document := do
  let value ← get settings key
  if kind.holds value then return value else throw (.mistyped key value.kindName kind)

/-- The text at a dotted key. -/
def getText (settings : Entries) (key : String) : Except LookupError String := do
  let value ← getKind settings .text key
  return value.text?.getD ""

/-- Why a file of settings cannot be used. -/
inductive LoadError
  | undecodable (fault : Utf8.Fault)
  | yaml (fault : Yaml.Fault)
  | notMapping (path kind : String)
deriving Repr

/-- The wording of an error. -/
def LoadError.message : LoadError → String
  | .undecodable fault => fault.message
  | .yaml fault => fault.message
  | .notMapping path kind => s!"{path} must hold a mapping at the top level, not {kind}"

/-- The settings: those of a named file, if it is there, else those of the program. -/
def load (files : FileTree) (override : Option String) : Except LoadError Entries :=
  let path := (Path.ofString (override.getD "")).toString
  if override.getD "" == "" || !files.isFile path then .ok builtin
  else
    match Utf8.decode ((files.read path).toOption.getD []) with
    | .error fault => .error (.undecodable fault)
    | .ok text =>
      match Yaml.read (Text.unifyBreaks text) with
      | .error fault => .error (.yaml fault)
      | .ok (.mapping entries) => .ok entries
      | .ok value => .error (.notMapping path value.kindName)

/-- Settings that are loaded once, at the first use. -/
structure Cache where
  override : Option String := none
  loaded : Option Entries := none

/-- The settings of a cache; what cannot be loaded is not kept. -/
def Cache.load (cache : Cache) (files : FileTree) : Except LoadError (Entries × Cache) :=
  match cache.loaded with
  | some settings => .ok (settings, cache)
  | none => do
    let settings ← Settings.load files cache.override
    return (settings, { cache with loaded := some settings })

/-- Forget the settings loaded. -/
def Cache.reset (cache : Cache) : Cache := { cache with loaded := none }

end ImportOrder.Settings
