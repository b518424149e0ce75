import ImportOrder.Yaml.Lexer
import ImportOrder.Yaml.Schema

/-! The tree of a YAML text: scalars, sequences and mappings with their tags. -/

namespace ImportOrder.Yaml

/-- A node with its tag. -/
inductive Node
  | scalar (tag : String) (text : Text)
  | sequence (tag : String) (items : List Node)
  | mapping (tag : String) (entries : List (Node × Node))

/-- The state of the reading: the tokens left, the nodes with names, and what tag handles stand for.
-/
structure Weaver where
  tokens : List Token
  anchors : List (Text × Node) := []
  handles : List (Text × Text) := []

/-- A step of the reading. -/
abbrev Weaving := StateT Weaver (Except Fault)

namespace Weaving

/-- Refuse the text. -/
def fail {α : Type} : Weaving α := throw .malformed

/-- The next token. -/
def peek? : Weaving (Option Token) := return (← get).tokens.head?

/-- Pass over the next token. -/
def advance : Weaving Unit := modify fun weaver => { weaver with tokens := weaver.tokens.drop 1 }

/-- Pass over the next token if it is the one given. -/
def accept (token : Token) : Weaving Bool := do
  if (← peek?) == some token then
    advance
    return true
  else return false

/-- Whether the next token is one of some. -/
def nextIn (tokens : List Token) : Weaving Bool := do
  match ← peek? with
  | some token => return tokens.contains token
  | none => return false

/-- The node of nothing. -/
def nothing : Node := .scalar Tag.null []

/-- The handles that need no directive. -/
def commonHandles : List (Text × Text) := [(['!'], ['!']), (['!', '!'], Tag.common.toList)]

/-- The anchor and the tag in front of a node, in either order. -/
def takeProperties : (fuel : Nat) → Option Text → Option (Option Text × Text) →
    Weaving (Option Text × Option (Option Text × Text))
  | 0, anchor, tag => return (anchor, tag)
  | fuel + 1, anchor, tag => do
    -- Each of the two is taken once; a second one belongs to no node.
    match ← peek?, anchor, tag with
    | some (.anchor name), none, tag =>
      advance
      takeProperties fuel (some name) tag
    | some (.tag handle suffix), anchor, none =>
      advance
      takeProperties fuel anchor (some (handle, suffix))
    | _, anchor, tag => return (anchor, tag)

/-- The full name of a tag. -/
def fullTag : Option (Option Text × Text) → Weaving (Option String)
  | none => return none
  | some (none, suffix) => return some (String.ofList suffix)
  | some (some handle, suffix) => do
    -- A handle has to be declared, or be one of the common two.
    match (← get).handles.find? fun (known, _) => known == handle with
    | none => fail
    | some (_, lead) => return some (String.ofList (lead ++ suffix))

/-- Give a node a name; each name is given once. -/
def bindAnchor (anchor : Option Text) (node : Node) : Weaving Node := do
  match anchor with
  | none => return node
  | some name =>
    -- The node gets its name when it is complete, so it cannot hold itself.
    modify fun weaver => { weaver with anchors := (name, node) :: weaver.anchors }
    return node

/-- Refuse a name that is given already. -/
def checkAnchor (anchor : Option Text) : Weaving Unit := do
  match anchor with
  | none => return
  | some name => if (← get).anchors.any fun (known, _) => known == name then fail

/-- The node that a name stands for. -/
def aliasNode (name : Text) : Weaving Node := do
  match (← get).anchors.find? fun (known, _) => known == name with
  | none => fail
  | some (_, node) => return node

/-- Whether a tag leaves the kind of a node to its looks. -/
def isOpenTag (tag : Option String) : Bool := tag.isNone || tag == some "!"

/-- The node of a scalar token. -/
def scalarNode (tag : Option String) (text : Text) (plain : Bool) : Node :=
  match tag with
  | some "!" => .scalar (impliedTag text) text
  | some tag => .scalar tag text
  | none => .scalar (if plain then impliedTag text else Tag.str) text

/-- The tag of a collection. -/
def collectionTag (tag : Option String) (default : String) : String :=
  if isOpenTag tag then default else tag.getD default

mutual

/-- A node: inside a block it may be a block, and as a value its entries may stand without
indentation. -/
def node : (fuel : Nat) → (block loose : Bool) → Weaving Node
  | 0, _, _ => fail
  | fuel + 1, block, loose => do
    if let some (.alias name) ← peek? then
      advance
      return ← aliasNode name
    -- An alias stands for a whole node and has neither name nor tag.
    let (anchor, tag) ← takeProperties 2 none none
    let tag ← fullTag tag
    checkAnchor anchor
    match ← peek?, block, loose with
    | some .blockEntry, _, true =>
      let items ← looseItems fuel
      bindAnchor anchor (.sequence (collectionTag tag Tag.seq) items)
    | some (.scalar text plain), _, _ =>
      advance
      bindAnchor anchor (scalarNode tag text plain)
    | some .flowSequenceStart, _, _ =>
      advance
      let items ← flowItems fuel true
      bindAnchor anchor (.sequence (collectionTag tag Tag.seq) items)
    | some .flowMappingStart, _, _ =>
      advance
      let entries ← flowEntries fuel true
      bindAnchor anchor (.mapping (collectionTag tag Tag.map) entries)
    | some .blockSequenceStart, true, _ =>
      advance
      let items ← blockItems fuel
      bindAnchor anchor (.sequence (collectionTag tag Tag.seq) items)
    | some .blockMappingStart, true, _ =>
      advance
      let entries ← blockEntries fuel
      bindAnchor anchor (.mapping (collectionTag tag Tag.map) entries)
    | _, _, _ =>
      -- A name or a tag without a node stands for an empty scalar.
      if anchor.isSome || tag.isSome then bindAnchor anchor (scalarNode tag [] true) else fail

/-- A node, or nothing in front of some tokens. -/
def nodeUnless : (fuel : Nat) → List Token → (block loose : Bool) → Weaving Node
  | 0, _, _, _ => fail
  | fuel + 1, stops, block, loose => do
    if ← nextIn stops then return nothing else node fuel block loose

/-- The items of an indented sequence. -/
def blockItems : (fuel : Nat) → Weaving (List Node)
  | 0 => fail
  | fuel + 1 => do
    if ← accept .blockEntry then
      let item ← nodeUnless fuel [.blockEntry, .blockEnd] true false
      let rest ← blockItems fuel
      return item :: rest
    else if ← accept .blockEnd then return []
    else fail

/-- The items of a sequence that is not indented. -/
def looseItems : (fuel : Nat) → Weaving (List Node)
  | 0 => fail
  | fuel + 1 => do
    if ← accept .blockEntry then
      let item ← nodeUnless fuel [.blockEntry, .key, .value, .blockEnd] true false
      let rest ← looseItems fuel
      return item :: rest
    -- No token ends such a sequence; the next key, or the end of the mapping, does.
    else return []

/-- The entries of an indented mapping. -/
def blockEntries : (fuel : Nat) → Weaving (List (Node × Node))
  | 0 => fail
  | fuel + 1 => do
    let stops := [Token.key, .value, .blockEnd]
    if ← accept .key then
      -- Key and value may both be left out.
      let key ← nodeUnless fuel stops true true
      let value ← do
        if ← accept .value then nodeUnless fuel stops true true else pure nothing
      let rest ← blockEntries fuel
      return (key, value) :: rest
    else if ← accept .blockEnd then return []
    else fail

/-- The items between brackets; a key makes an item a mapping of one entry. -/
def flowItems : (fuel : Nat) → (first : Bool) → Weaving (List Node)
  | 0, _ => fail
  | fuel + 1, first => do
    if ← accept .flowSequenceEnd then return []
    if !first then
      if !(← accept .flowEntry) then fail
    if ← accept .key then
      let key ← nodeUnless fuel [.value, .flowEntry, .flowSequenceEnd] false false
      let value ← do
        if ← accept .value then nodeUnless fuel [.flowEntry, .flowSequenceEnd] false false
        else pure nothing
      let rest ← flowItems fuel false
      return .mapping Tag.map [(key, value)] :: rest
    -- A comma may stand behind the last item.
    else if ← accept .flowSequenceEnd then return []
    else
      let item ← node fuel false false
      let rest ← flowItems fuel false
      return item :: rest

/-- The entries between braces; an item without a colon is a key of nothing. -/
def flowEntries : (fuel : Nat) → (first : Bool) → Weaving (List (Node × Node))
  | 0, _ => fail
  | fuel + 1, first => do
    if ← accept .flowMappingEnd then return []
    if !first then
      if !(← accept .flowEntry) then fail
    if ← accept .key then
      let key ← nodeUnless fuel [.value, .flowEntry, .flowMappingEnd] false false
      let value ← do
        if ← accept .value then nodeUnless fuel [.flowEntry, .flowMappingEnd] false false
        else pure nothing
      let rest ← flowEntries fuel false
      return (key, value) :: rest
    -- A comma may stand behind the last entry.
    else if ← accept .flowMappingEnd then return []
    else
      let key ← node fuel false false
      let rest ← flowEntries fuel false
      return (key, nothing) :: rest

end

/-- The directives in front of a document: at most one version, which is a first one, and each tag
handle once. -/
def takeDirectives : (fuel : Nat) → (versioned : Bool) → List (Text × Text) →
    Weaving (List (Text × Text))
  | 0, _, handles => return handles
  | fuel + 1, versioned, handles => do
    match ← peek? with
    | some (.versionDirective major) =>
      -- A second version is refused, and so is one of another format.
      if versioned || major != 1 then fail
      advance
      takeDirectives fuel true handles
    | some (.tagDirective handle lead) =>
      if handles.any fun (known, _) => known == handle then fail
      advance
      takeDirectives fuel versioned ((handle, lead) :: handles)
    | some .otherDirective =>
      advance
      takeDirectives fuel versioned handles
    | _ => return handles

/-- Whether a token ends or precedes a document. -/
def isFrame : Option Token → Bool
  | none => true
  | some .documentStart => true
  | some .documentEnd => true
  | some (.versionDirective _) => true
  | some (.tagDirective ..) => true
  | some .otherDirective => true
  | _ => false

/-- Pass over the marks at the end of a document. -/
def skipEnds : (fuel : Nat) → Weaving Unit
  | 0 => return
  | fuel + 1 => do
    if ← accept .documentEnd then skipEnds fuel

/-- The only document of a text, if there is one. -/
def document : Weaving (Option Node) := do
  -- Every level of nesting takes tokens of its own, so this is enough fuel.
  let fuel := 2 * (← get).tokens.length + 2
  match ← peek? with
  | none => return none
  | first =>
    let root ←
      -- A document without directives needs no mark in front of it.
      if isFrame first && first != some .documentEnd then do
        let handles ← takeDirectives fuel false []
        modify fun weaver => { weaver with handles := handles ++ commonHandles }
        if !(← accept .documentStart) then fail
        if isFrame (← peek?) then pure nothing else node fuel true false
      else do
        modify fun weaver => { weaver with handles := commonHandles }
        node fuel true false
    skipEnds fuel
    -- A second document is refused.
    if (← peek?).isSome then fail
    return some root

end Weaving

/-- The tree of a text, none for a text without a document. -/
def parse (text : Text) : Except Fault (Option Node) := do
  let tokens ← tokens text
  let (root, _) ← Weaving.document.run { tokens }
  return root

end ImportOrder.Yaml
