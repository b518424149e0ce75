import ImportOrder.Options.Basic
import ImportOrder.Ordering.NaturalKey
import ImportOrder.Path
import ImportOrder.Pattern.Matcher
import ImportOrder.Pattern.Parser

/-! Imports in buckets, the buckets split into groups, and the groups in order. -/

namespace ImportOrder

/-- What tells project modules from foreign ones, and the extension of a module. -/
structure Classifier where
  isLocal : String → Bool
  extension : String → String

/-- The depth added by each step up that a path starts with. -/
def stepsUp : Text → Nat
  | '.' :: '.' :: '/' :: rest => 2 + stepsUp rest
  | _ => 0

/-- How far a relative module is away: one for the own directory, two more for each step up, and
none for a module that is not relative. -/
def relativeDepth (specifier : String) : Nat :=
  match specifier.toList with
  | '.' :: '/' :: _ => 1
  | text => stepsUp text

/-- An item with its place in the source and what decides on its bucket. -/
structure Tagged (α : Type) where
  item : α
  order : Nat
  isLocal : Bool
  isStatic : Bool
  depth : Nat
deriving Repr

namespace Sorter

variable {α : Type}

/-- Tag items from left to right, the first one with the place `order`. -/
def tagFrom (classifier : Classifier) (specifier : α → String) (order : Nat) :
    List α → List (Tagged α)
  | [] => []
  | item :: rest =>
    let name := specifier item
    ⟨item, order, classifier.isLocal name, classifier.extension name != "", relativeDepth name⟩ ::
      tagFrom classifier specifier (order + 1) rest

/-- Groups of which no bucket is in `seen` or occurs before. -/
def distinctFrom (seen : List String) : List Group → List Group
  | [] => []
  | group :: rest =>
    if seen.contains group.bucket then distinctFrom seen rest
    else group :: distinctFrom (group.bucket :: seen) rest

/-- The groups in use: the first of each bucket, and at the end the bucket for the rest if none is
named. -/
def effectiveGroups (groups : List Group) : List Group :=
  let kept := distinctFrom [] groups
  if kept.any fun group => group.bucket == Bucket.rest then kept
  else kept ++ [⟨Bucket.rest, Algorithm.persist⟩]

/-- The bucket of an item among those that exist. -/
def bucketOf (buckets : List String) (tagged : Tagged α) : String :=
  -- The questions are asked in this order: an item goes to the first bucket that takes it and
  -- exists.
  if tagged.isStatic && buckets.contains Bucket.asset then Bucket.asset
  else if !tagged.isLocal && !tagged.isStatic && buckets.contains Bucket.vendor then Bucket.vendor
  else if tagged.depth == 0 && buckets.contains Bucket.project then Bucket.project
  else if 0 < tagged.depth && buckets.contains Bucket.relative then Bucket.relative
  else if 0 < tagged.depth && buckets.contains Bucket.project then Bucket.project
  else Bucket.rest

/-- The members of a group in their order; an unknown way to order keeps them as they come. -/
def sortGroup (specifier : α → String) (algorithm : String) (members : List (Tagged α)) : List α :=
  let ordered :=
    if algorithm == Algorithm.natural then
      -- The sort is stable, so members with equal keys stay as they come.
      members.mergeSort fun a b =>
        NaturalKey.le (naturalKey (specifier a.item)) (naturalKey (specifier b.item))
    else if algorithm == Algorithm.persist then
      members.mergeSort fun a b => a.order ≤ b.order
    else members
  ordered.map Tagged.item

/-- Members by depth, one group for each depth that occurs. -/
def splitByDepth (specifier : α → String) (algorithm relativeOrder : String)
    (members : List (Tagged α)) : List (List α) :=
  let depths := (members.map Tagged.depth).eraseDups
  let depths :=
    if relativeOrder == "shallow-first" then depths.mergeSort fun a b => a ≤ b
    else depths.mergeSort fun a b => b ≤ a
  depths.map fun depth =>
    sortGroup specifier algorithm (members.filter fun tagged => tagged.depth == depth)

/-- The name shared by the modules that a split pattern does not find. -/
def unmatched : String := "__UNMATCHED"

/-- The part of a module name that a split pattern sorts by. -/
def partitionKey (pattern : Pattern) (name : String) : String :=
  match Pattern.lastGroup? pattern name.toList with
  | some text => String.ofList text
  | none => unmatched

/-- Members by what a pattern finds in them, one group for each finding, in the order of first
findings. -/
def splitByKey (specifier : α → String) (algorithm : String) (key : String → String)
    (members : List (Tagged α)) : List (List α) :=
  let keys := (members.map fun tagged => key (specifier tagged.item)).eraseDups
  keys.map fun found =>
    sortGroup specifier algorithm
      (members.filter fun tagged => key (specifier tagged.item) == found)

/-- The groups that the members of one bucket make. -/
def groupsOf (specifier : α → String) (options : Options) (key : Option (String → String))
    (group : Group) (members : List (Tagged α)) : List (List α) :=
  if members.isEmpty then []
  else if group.bucket == Bucket.relative && options.splitRelative then
    splitByDepth specifier group.algorithm options.relativeOrder members
  else
    -- The pattern splits the bucket of project files only.
    match group.bucket == Bucket.project, key with
    | true, some key => splitByKey specifier group.algorithm key members
    | _, _ => [sortGroup specifier group.algorithm members]

/-- The groups of items, where `key` is what a split pattern sorts by. -/
def arrange (classifier : Classifier) (specifier : α → String) (options : Options)
    (key : Option (String → String)) (items : List α) : List (List α) :=
  let groups := effectiveGroups options.groups
  let buckets := groups.map Group.bucket
  let tagged := tagFrom classifier specifier 0 items
  groups.flatMap fun group =>
    groupsOf specifier options key group
      (tagged.filter fun tagged => bucketOf buckets tagged == group.bucket)

/-- The split pattern of the options: none if it is empty, else the pattern or why there is none. -/
def splitPattern (options : Options) : Except Pattern.Refusal (Option Pattern) :=
  if options.splitPattern == "" then .ok none
  else (Pattern.compile options.splitPattern.toList).map some

/-- The warning about a split pattern that cannot be used. -/
def patternWarning (pattern : String) (fault : Pattern.Fault) : String :=
  s!"ignoring splitLocalPattern {quote pattern}: {fault.message pattern.toList}\n"

/-- The groups of items, and a warning if the split pattern had to be ignored. A pattern with a fault
is ignored, but one that asks for too much ends the sort. -/
def process (classifier : Classifier) (specifier : α → String) (options : Options)
    (items : List α) : Except Pattern.Excess (List (List α) × String) :=
  match splitPattern options with
  | .ok pattern =>
    .ok (arrange classifier specifier options (pattern.map partitionKey) items, "")
  -- The warning is given once for a sort, whether there are project files or not.
  | .error (.fault fault) =>
    .ok (arrange classifier specifier options none items,
      patternWarning options.splitPattern fault)
  | .error (.excess excess) => .error excess

end Sorter

end ImportOrder
