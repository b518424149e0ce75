import ImportOrder.Yaml.Node

/-! The document that a YAML text stands for. A text with a set or with binary data is refused. -/

namespace ImportOrder.Yaml

/-- The tag of a node. -/
def Node.tag : Node → String
  | .scalar tag _ => tag
  | .sequence tag _ => tag
  | .mapping tag _ => tag

mutual

/-- The entries that a mapping takes in by its merge keys, in front of its own. A mapping among
several taken in gives way to those before it. -/
def flatten : (fuel : Nat) → List (Node × Node) → Except Fault (List (Node × Node))
  | 0, _ => .error .malformed
  | fuel + 1, entries => do
    -- What is merged comes first, so that the own entries overwrite it.
    let merged ← mergedEntries fuel entries
    return merged ++ entries.filter fun (key, _) => key.tag != Tag.merge

/-- The entries of the mappings behind merge keys. -/
def mergedEntries : (fuel : Nat) → List (Node × Node) → Except Fault (List (Node × Node))
  | 0, _ => .error .malformed
  | _ + 1, [] => .ok []
  | fuel + 1, (key, value) :: rest => do
    let others ← mergedEntries fuel rest
    if key.tag != Tag.merge then return others
    match value with
    | .mapping _ entries =>
      let entries ← flatten fuel entries
      return entries ++ others
    | .sequence _ items =>
      let entries ← mergedItems fuel items
      return entries ++ others
    | .scalar .. => throw .malformed

/-- The entries of mappings in a list, the last mapping first. -/
def mergedItems : (fuel : Nat) → List Node → Except Fault (List (Node × Node))
  | 0, _ => .error .malformed
  | _ + 1, [] => .ok []
  | fuel + 1, .mapping _ entries :: rest => do
    let entries ← flatten fuel entries
    let others ← mergedItems fuel rest
    -- The first mapping comes last, so that it overwrites the others.
    return others ++ entries
  | _ + 1, _ :: _ => .error .malformed

end

/-- The tag of a key: one that marks a value is a text. -/
def keyNode : Node → Node
  | .scalar tag text => .scalar (if tag == Tag.value then Tag.str else tag) text
  | node => node

mutual

/-- The value of a node. -/
def valueOf : (fuel : Nat) → Node → Except Fault Document
  | 0, _ => .error .malformed
  | _ + 1, .scalar tag text => scalarValue tag text
  | fuel + 1, .sequence tag items => do
    -- Both kinds give pairs, and an ordered mapping is not checked for keys that come twice.
    if tag == Tag.pairs || tag == Tag.omap then
      let pairs ← pairsOf fuel items
      return .list pairs
    if tag != Tag.seq then throw .malformed
    let items ← valuesOf fuel items
    return .list items
  | fuel + 1, .mapping tag entries => do
    -- Sets are not read here.
    if tag != Tag.map then throw .malformed
    let flat ← flatten fuel entries
    let entries ← entriesOf fuel flat []
    return .mapping entries

/-- The values of nodes. -/
def valuesOf : (fuel : Nat) → List Node → Except Fault (List Document)
  | 0, _ => .error .malformed
  | _ + 1, [] => .ok []
  | fuel + 1, node :: rest => do
    let value ← valueOf fuel node
    let values ← valuesOf fuel rest
    return value :: values

/-- The pairs of nodes each of which is a mapping with one entry. -/
def pairsOf : (fuel : Nat) → List Node → Except Fault (List Document)
  | 0, _ => .error .malformed
  | _ + 1, [] => .ok []
  -- Whatever its tag, the mapping is taken as it is written: no entries are merged into it.
  | fuel + 1, .mapping _ [(key, value)] :: rest => do
    let key ← valueOf fuel key
    let value ← valueOf fuel value
    let pairs ← pairsOf fuel rest
    return .pair key value :: pairs
  | _ + 1, _ :: _ => .error .malformed

/-- The entries of a mapping added to those before them; lists and mappings are no keys. -/
def entriesOf : (fuel : Nat) → List (Node × Node) → Entries → Except Fault Entries
  | 0, _, _ => .error .malformed
  | _ + 1, [], entries => .ok entries
  | fuel + 1, (key, value) :: rest, entries => do
    let key ← valueOf fuel (keyNode key)
    -- A key that is a list or a mapping is a fault of form.
    if !key.canBeKey then throw .malformed
    let value ← valueOf fuel value
    entriesOf fuel rest (Entries.insert key value entries)

end

mutual

/-- How deep and wide a tree is: enough fuel for a walk through it. -/
def Node.measure : Node → Nat
  | .scalar .. => 1
  | .sequence _ items => measureItems items + 2
  | .mapping _ entries => measureEntries entries + 2

/-- The measure of nodes together. -/
def measureItems : List Node → Nat
  | [] => 1
  | node :: rest => node.measure + measureItems rest + 1

/-- The measure of entries together. -/
def measureEntries : List (Node × Node) → Nat
  | [] => 1
  | (key, value) :: rest => key.measure + value.measure + measureEntries rest + 1

end

/-- The document of a text; a text without one is null. -/
def read (text : Text) : Except Fault Document := do
  -- The measure counts every node on the way, so the fuel does not run out.
  match ← parse text with
  | none => return .null
  | some root => valueOf (2 * root.measure + 2) root

end ImportOrder.Yaml
