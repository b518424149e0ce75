import ImportOrder.Document.Display
import ImportOrder.Options.Basic

/-! Options from a decoded document: what is missing or of the wrong kind keeps its default. -/

namespace ImportOrder

namespace OptionKey

/-- The key of the comment mode. -/
def commentMode : String := "importCommentMode"

/-- The key of the location. -/
def location : String := "importLocation"

/-- The key of the groups. -/
def groups : String := "groups"

/-- The key of the switch that splits the relative bucket. -/
def splitRelative : String := "splitRelativeGroups"

/-- The key of the order of depths. -/
def relativeOrder : String := "relativeSortAlg"

/-- The key of the pattern that splits the local bucket. -/
def splitPattern : String := "splitLocalPattern"

/-- The key of the line end. -/
def lineEnd : String := "endOfLine"

/-- The key of the resolver. -/
def resolver : String := "resolver"

/-- The key of the resolver's type, inside the resolver. -/
def resolverType : String := "type"

/-- The key of the resolver's configuration file, inside the resolver. -/
def resolverConfigName : String := "configName"

/-- The key of the logging options. -/
def logging : String := "logging"

/-- The key of the logging switch, inside the logging options. -/
def loggingEnabled : String := "enabled"

/-- The key of the logging directory, inside the logging options. -/
def loggingDirectory : String := "directory"

/-- All keys at the top of a document. -/
def all : List String :=
  [commentMode, location, groups, splitRelative, relativeOrder, splitPattern, lineEnd, resolver,
    logging]

end OptionKey

namespace Document

/-- The text of a document that is one. -/
def text? : Document → Option String
  | .text value => some value
  | _ => none

/-- The truth value of a document that is one. -/
def bool? : Document → Option Bool
  | .bool value => some value
  | _ => none

/-- The items of a document that is a list. -/
def list? : Document → Option (List Document)
  | .list items => some items
  | _ => none

/-- The entries of a document that is a mapping. -/
def entries? : Document → Option Entries
  | .mapping entries => some entries
  | _ => none

/-- The entries of a document, none if it is no mapping. -/
def entries (document : Document) : Entries := document.entries?.getD []

end Document

namespace Entries

/-- The text at a key, or a default. -/
def textOr (entries : Entries) (key default : String) : String :=
  ((entries.get? key).bind Document.text?).getD default

/-- The truth value at a key, or a default. -/
def boolOr (entries : Entries) (key : String) (default : Bool) : Bool :=
  ((entries.get? key).bind Document.bool?).getD default

end Entries

/-- The group of an entry: a bucket and a way to order it, or a bucket alone, which keeps its order.
-/
def Group.ofDocument? : Document → Option Group
  | .text bucket => some ⟨bucket, Algorithm.persist⟩
  -- Names that are no texts are taken as messages show them.
  | .list [bucket, algorithm] => some ⟨bucket.plain, algorithm.plain⟩
  | .pair bucket algorithm => some ⟨bucket.plain, algorithm.plain⟩
  | _ => none

/-- The groups of a document; entries that are no groups are left out. -/
def groupsOf : Document → List Group
  | .list items => items.filterMap Group.ofDocument?
  | _ => []

/-- The resolver of a document. -/
def ResolverOptions.ofDocument (document : Document) : ResolverOptions :=
  let entries := document.entries
  let default : ResolverOptions := {}
  { type := entries.textOr OptionKey.resolverType default.type
    configName := entries.textOr OptionKey.resolverConfigName default.configName }

/-- The logging options of a document. -/
def LoggingOptions.ofDocument (document : Document) : LoggingOptions :=
  let entries := document.entries
  let default : LoggingOptions := {}
  { enabled := entries.boolOr OptionKey.loggingEnabled default.enabled
    directory := entries.textOr OptionKey.loggingDirectory default.directory }

/-- The options of a document. -/
def Options.ofDocument (document : Document) : Options :=
  let entries := document.entries
  let default : Options := {}
  { commentMode := entries.textOr OptionKey.commentMode default.commentMode
    location := entries.textOr OptionKey.location default.location
    -- A list without groups in it is kept as an empty one, it does not bring the default back.
    groups := ((entries.get? OptionKey.groups).filter fun value => value.list?.isSome).elim
      default.groups groupsOf
    splitRelative := entries.boolOr OptionKey.splitRelative default.splitRelative
    relativeOrder := entries.textOr OptionKey.relativeOrder default.relativeOrder
    lineEnd := entries.textOr OptionKey.lineEnd default.lineEnd
    resolver := .ofDocument ((entries.get? OptionKey.resolver).getD .null)
    splitPattern := entries.textOr OptionKey.splitPattern default.splitPattern
    logging := .ofDocument ((entries.get? OptionKey.logging).getD .null) }

end ImportOrder
