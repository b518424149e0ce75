import ImportOrder.Options.Reading
import ImportOrder.Pattern.Parser

/-! What is wrong with a document of options. -/

namespace ImportOrder

/-- A problem of a document of options. -/
inductive OptionProblem
  | notMapping (kind : String)
  | unknownKey (key : Document)
  | notChoice (key : String) (choices : List String) (value : Document)
  | notBool (key : String) (value : Document)
  | notString (key : String) (value : Document)
  | notList (key : String) (value : Document)
  | badGroup (index : Nat) (value : Document)
  | unknownBucket (index : Nat) (value : Document)
  | unknownAlgorithm (index : Nat) (value : Document)
  | duplicateBucket (index : Nat) (bucket : String)
  | badPattern (key pattern : String) (fault : Pattern.Fault)
  | notSection (key : String) (value : Document)

namespace OptionProblem

/-- The wording of a problem. -/
def message : OptionProblem → String
  | .notMapping kind => s!"options must be a mapping, got {kind}"
  | .unknownKey key => s!"unknown option {key.display}"
  | .notChoice key choices value =>
    s!"{key} must be one of " ++ ", ".intercalate choices ++ s!", got {value.display}"
  | .notBool key value => s!"{key} must be true or false, got {value.display}"
  | .notString key value => s!"{key} must be a string, got {value.display}"
  | .notList key value => s!"{key} must be a list, got {value.display}"
  | .badGroup index value =>
    s!"groups[{index}] must be [bucket, algorithm], got {value.display}"
  | .unknownBucket index value =>
    s!"groups[{index}] has unknown bucket {value.display}; its imports fall through to rest"
  | .unknownAlgorithm index value =>
    s!"groups[{index}] has unknown algorithm {value.display}; its imports keep their order"
  | .duplicateBucket index bucket =>
    s!"groups[{index}] repeats bucket {quote bucket}; only the first entry is used"
  | .badPattern key pattern fault =>
    s!"{key} is not a valid regular expression: {fault.message pattern.toList}"
  | .notSection key value => s!"{key} must be a mapping, got {value.display}"

end OptionProblem

namespace OptionCheck

/-- The comment modes by name. -/
def commentModes : List String := ["none", "same-line", "prev-line"]

/-- The locations by name. -/
def locations : List String := ["leading", "auto"]

/-- The orders of depths by name. -/
def relativeOrders : List String := ["shallow-first", "deepest-first"]

/-- The line ends by name. -/
def lineEnds : List String := ["auto", "lf", "cr", "crlf"]

/-- The types of resolvers. -/
def resolverTypes : List String := ["fs", "package"]

/-- The buckets by name. -/
def buckets : List String :=
  [Bucket.vendor, Bucket.project, Bucket.relative, Bucket.asset, Bucket.rest]

/-- The ways to order a bucket by name. -/
def algorithms : List String := [Algorithm.natural, Algorithm.persist]

/-- Whether a document is one of some names. -/
def isOneOf (names : List String) (value : Document) : Bool :=
  value.text?.any fun name => names.contains name

/-- A problem of a key that is there, if `good` does not hold of its value. -/
def expect (entries : Entries) (key : String) (good : Document → Bool)
    (problem : Document → OptionProblem) : List OptionProblem :=
  match entries.get? key with
  -- A key that is left out has a default, which is no problem.
  | none => []
  | some value => if good value then [] else [problem value]

/-- The keys that no option has. -/
def unknownKeys (entries : Entries) : List OptionProblem :=
  (entries.filter fun (key, _) => !isOneOf OptionKey.all key).map fun (key, _) => .unknownKey key

/-- A key whose value has to be one of some names. -/
def choice (entries : Entries) (key : String) (names : List String) : List OptionProblem :=
  expect entries key (isOneOf names) (.notChoice key names)

/-- The pattern that splits the local bucket: a text that is a pattern. One that asks for too much is
no problem to report but ends the check. -/
def pattern (entries : Entries) : Except Pattern.Excess (List OptionProblem) :=
  match entries.get? OptionKey.splitPattern with
  | none => .ok []
  | some (.text source) =>
    match Pattern.compile source.toList with
    -- An empty pattern is a pattern too, though it splits nothing.
    | .ok _ => .ok []
    | .error (.fault fault) => .ok [.badPattern OptionKey.splitPattern source fault]
    | .error (.excess excess) => .error excess
  | some value => .ok [.notString OptionKey.splitPattern value]

/-- The bucket and the way to order it that an entry names. A pair is not taken for a group here,
though it is read as one. -/
def groupParts? : Document → Option (Document × Document)
  | .text bucket => some (.text bucket, .text Algorithm.persist)
  | .list [bucket, algorithm] => some (bucket, algorithm)
  | _ => none

/-- The problems of one entry of the groups, where `seen` holds the buckets named before. -/
def groupEntry (seen : List String) (index : Nat) (entry : Document) : List OptionProblem :=
  match groupParts? entry with
  | none => [.badGroup index entry]
  | some (bucket, algorithm) =>
    (if isOneOf buckets bucket then [] else [.unknownBucket index bucket]) ++
      (if isOneOf algorithms algorithm then [] else [.unknownAlgorithm index algorithm]) ++
      -- A bucket that is no text repeats none: it is unknown already.
      match bucket.text? with
      | none => []
      | some name => if seen.contains name then [.duplicateBucket index name] else []

/-- The buckets named before the next entry. -/
def seenAfter (seen : List String) (entry : Document) : List String :=
  match (groupParts? entry).bind fun (bucket, _) => bucket.text? with
  | none => seen
  | some name => name :: seen

/-- The problems of the entries of the groups from `index` on. -/
def groupEntries (seen : List String) (index : Nat) : List Document → List OptionProblem
  | [] => []
  | entry :: rest =>
    groupEntry seen index entry ++ groupEntries (seenAfter seen entry) (index + 1) rest

/-- The problems of the groups. -/
def groups : Document → List OptionProblem
  -- Nothing under the key is the same as no key.
  | .null => []
  | .list items => groupEntries [] 0 items
  | value => [.notList OptionKey.groups value]

/-- The problems of the resolver. -/
def resolver : Document → List OptionProblem
  | .null => []
  | .mapping entries =>
    let name := fun key => OptionKey.resolver ++ "." ++ key
    expect entries OptionKey.resolverType (isOneOf resolverTypes)
        (.notChoice (name OptionKey.resolverType) resolverTypes) ++
      expect entries OptionKey.resolverConfigName (·.text?.isSome)
        (.notString (name OptionKey.resolverConfigName))
  | value => [.notSection OptionKey.resolver value]

/-- The problems of the logging options. -/
def logging : Document → List OptionProblem
  | .null => []
  | .mapping entries =>
    let name := fun key => OptionKey.logging ++ "." ++ key
    expect entries OptionKey.loggingEnabled (·.bool?.isSome)
        (.notBool (name OptionKey.loggingEnabled)) ++
      expect entries OptionKey.loggingDirectory (·.text?.isSome)
        (.notString (name OptionKey.loggingDirectory))
  | value => [.notSection OptionKey.logging value]

/-- The problems of the entries of a document. -/
def entries (entries : Entries) : Except Pattern.Excess (List OptionProblem) := do
  -- An excess ends the check before anything is reported.
  let patternProblems ← pattern entries
  return unknownKeys entries ++
    choice entries OptionKey.commentMode commentModes ++
    choice entries OptionKey.location locations ++
    choice entries OptionKey.relativeOrder relativeOrders ++
    choice entries OptionKey.lineEnd lineEnds ++
    expect entries OptionKey.splitRelative (·.bool?.isSome) (.notBool OptionKey.splitRelative) ++
    patternProblems ++
    groups ((entries.get? OptionKey.groups).getD .null) ++
    resolver ((entries.get? OptionKey.resolver).getD .null) ++
    logging ((entries.get? OptionKey.logging).getD .null)

end OptionCheck

/-- The problems of a document of options, in the order they are reported; null says nothing. -/
def optionProblems : Document → Except Pattern.Excess (List OptionProblem)
  | .null => .ok []
  | .mapping entries => OptionCheck.entries entries
  | value => .ok [.notMapping value.kindName]

end ImportOrder
