import ImportOrder.Draft
import ImportOrder.FileTree
import ImportOrder.Json.Reader
import ImportOrder.Pattern.Basic
import ImportOrder.Settings.Lookup
import ImportOrder.Tree.Imports
import ImportOrder.Yaml.Token

/-! Why a file of a project cannot be used, and what else can go wrong. -/

namespace ImportOrder

/-- Why a configuration file cannot be used. -/
inductive ConfigCause
  | nullInPath
  | file (error : FileError) (path : String)
  | undecodable (fault : Utf8.Fault)
  | json (text : Text) (fault : Json.Fault)
  | yaml
  | notMapping (kind : String)
  | circular (path : String)
  | missing (name path : String)
  | unknownResolver (type : String)

/-- The wording of the refusal of a path with a null character. -/
def nullMessage : String := "embedded null byte"

/-- The wording of a cause. -/
def ConfigCause.message : ConfigCause → String
  | .nullInPath => nullMessage
  | .file error path => error.message path
  | .undecodable fault => fault.message
  | .json text fault => fault.message text
  | .yaml => Yaml.Fault.malformed.message
  | .notMapping kind => s!"expected a mapping, got {kind}"
  | .circular path => s!"circular extends chain through {path}"
  | .missing name path => s!"no {name} found above {path}"
  | .unknownResolver type => s!"unknown resolver type {quote type}"

/-- A configuration file that cannot be used. -/
structure ConfigError where
  path : String
  cause : ConfigCause

namespace ConfigError

/-- The message about a file that cannot be loaded. -/
def loadMessage (path detail : String) : String := s!"Cannot load {path}: {detail}"

/-- The wording of an error. -/
def message (error : ConfigError) : String := loadMessage error.path error.cause.message

end ConfigError

/-- What ends a run or a part of it. -/
inductive Failure
  | config (error : ConfigError)
  | source (error : SourceError)
  | span (error : SpanError)
  | refusal (cause : Draft.Refusal)
  | file (error : FileError) (path : String)
  | undecodable (fault : Utf8.Fault)
  | yaml (fault : Yaml.Fault)
  | nameless (path : String)
  | nullInPath
  | tooDeep
  | longInteger
  | notPairs
  | badPair
  | pattern (excess : Pattern.Excess)
  | setting (error : Settings.LookupError)

namespace Failure

/-- The wording of a failure. -/
def message : Failure → String
  | .config error => error.message
  | .source error => error.message
  | .span error => error.message
  | .refusal cause => cause.message
  | .file error path => error.message path
  | .undecodable fault => fault.message
  | .yaml fault => fault.message
  | .nameless path => s!"PosixPath({quote path}) has an empty name"
  | .nullInPath => nullMessage
  | .tooDeep => "maximum recursion depth exceeded"
  | .longInteger => longNumberMessage ""
  | .notPairs => "the value is no mapping"
  | .badPair => "an item of the list is no pair"
  | .pattern excess => excess.message
  | .setting error => error.message

/-- The failure of a configuration file. -/
def ofConfig (path : String) (cause : ConfigCause) : Failure := .config ⟨path, cause⟩

end Failure

end ImportOrder
