import ImportOrder.Text.Utf8
import ImportOrder.Yaml.Token

/-! Cutting a YAML text into tokens. Indentation opens and closes blocks, and a colon turns the
scalar in front of it into a key. -/

namespace ImportOrder.Yaml

/-- A place where a key may have started: the number of its token, and whether a key has to follow.
-/
structure KeyMark where
  number : Nat
  required : Bool
  index : Nat
  line : Nat
  column : Nat

/-- The state of the cutting: the rest of the text and its place, the depth of brackets, the open
indentations, the tokens with the last one first, and the possible keys by depth. -/
structure Lexer where
  rest : Text
  index : Nat := 0
  line : Nat := 0
  column : Nat := 0
  depth : Nat := 0
  indent : Int := -1
  indents : List Int := []
  tokens : List Token := []
  allowKey : Bool := true
  keys : List (Nat × KeyMark) := []

/-- A step of the cutting. -/
abbrev Lexing := StateT Lexer (Except Fault)

namespace Lexer

/-- The character some places ahead. -/
def charAt (lexer : Lexer) (ahead : Nat) : Char := (lexer.rest[ahead]?).getD endMark

/-- The state behind one character. -/
def step (lexer : Lexer) : Lexer :=
  match lexer.rest with
  | [] => lexer
  | c :: rest =>
    let next := { lexer with rest, index := lexer.index + 1 }
    -- A carriage return in front of a line feed is no break of its own: the line feed ends the
    -- line.
    if c == '\r' && rest.head? == some '\n' then next
    else if isBreak c then { next with line := lexer.line + 1, column := 0 }
    -- A byte order mark takes no column.
    else if c.toNat == 0xFEFF then next
    else { next with column := lexer.column + 1 }

/-- The state behind some characters. -/
def steps : Nat → Lexer → Lexer
  | 0, lexer => lexer
  | count + 1, lexer => steps count lexer.step

/-- Whether the next characters separate documents. -/
def atSeparator (lexer : Lexer) : Bool :=
  -- Behind the three signs the word has to end.
  (lexer.rest.take 3 == "---".toList || lexer.rest.take 3 == "...".toList) &&
    isWordStop (lexer.charAt 3)

end Lexer

namespace Lexing

/-- Refuse the text. -/
def fail {α : Type} : Lexing α := throw .malformed

/-- The character some places ahead. -/
def peekAt (ahead : Nat) : Lexing Char := return (← get).charAt ahead

/-- The next character. -/
def peek : Lexing Char := peekAt 0

/-- Pass over some characters. -/
def forward (count : Nat) : Lexing Unit := modify (Lexer.steps count)

/-- Take the characters of a kind. -/
def takeWhile (wanted : Char → Bool) : Lexing Text := do
  let taken := (← get).rest.takeWhile wanted
  forward taken.length
  return taken

/-- Add a token. -/
def emit (token : Token) : Lexing Unit :=
  modify fun lexer => { lexer with tokens := token :: lexer.tokens }

/-- Put a token in front of the one with a number. -/
def emitBefore (number : Nat) (token : Token) : Lexing Unit :=
  modify fun lexer =>
    -- The tokens stand in reverse, so those behind the place come first.
    let behind := lexer.tokens.length - number
    { lexer with tokens := lexer.tokens.take behind ++ token :: lexer.tokens.drop behind }

/-- Take a line break, if one is next; most of them count as a line feed. -/
def takeBreak : Lexing Text := do
  let c ← peek
  if c == '\r' && (← peekAt 1) == '\n' then
    forward 2
    return ['\n']
  else if c == '\n' || c == '\r' || c.toNat == 0x85 then
    forward 1
    return ['\n']
  -- The two separators of Unicode are kept as they are.
  else if isBreak c then
    forward 1
    return [c]
  else return []

/-- Whether a possible key can be one no longer: a key and its colon share a line of a limited
width. -/
def isStale (lexer : Lexer) (mark : KeyMark) : Bool :=
  -- The width is counted in characters, not in columns.
  mark.line != lexer.line || 1024 < lexer.index - mark.index

/-- Forget the possible keys that can be none; one that had to follow is missed. -/
def dropStaleKeys : Lexing Unit := do
  let lexer ← get
  -- A key that had to follow and did not is a fault, not a plain scalar.
  if lexer.keys.any fun (_, mark) => isStale lexer mark && mark.required then fail
  set { lexer with keys := lexer.keys.filter fun (_, mark) => !isStale lexer mark }

/-- Forget the possible key at the current depth. -/
def dropKey : Lexing Unit := do
  let lexer ← get
  if lexer.keys.any fun (depth, mark) => depth == lexer.depth && mark.required then fail
  set { lexer with keys := lexer.keys.filter fun (depth, _) => depth != lexer.depth }

/-- Remember that a key may start here. -/
def markKey : Lexing Unit := do
  let lexer ← get
  if lexer.allowKey then
    dropKey
    -- At the indentation of an open block nothing but a key of it can stand.
    let required := lexer.depth == 0 && lexer.indent == lexer.column
    let mark : KeyMark := ⟨lexer.tokens.length, required, lexer.index, lexer.line, lexer.column⟩
    modify fun lexer => { lexer with keys := (lexer.depth, mark) :: lexer.keys }

/-- Say whether a key may start next. -/
def allowKey (allowed : Bool) : Lexing Unit :=
  modify fun lexer => { lexer with allowKey := allowed }

/-- Close the blocks that are indented further than a column. -/
def closeBlocks (column : Int) : (fuel : Nat) → Lexing Unit
  | 0 => return
  | fuel + 1 => do
    let lexer ← get
    -- Between brackets indentation means nothing.
    if lexer.depth == 0 && column < lexer.indent then
      set { lexer with
        indent := lexer.indents.head?.getD (-1), indents := lexer.indents.drop 1
        tokens := .blockEnd :: lexer.tokens }
      closeBlocks column fuel

/-- Close the blocks that are indented further than a column. -/
def unwind (column : Int) : Lexing Unit := do
  closeBlocks column ((← get).indents.length + 1)

/-- Open a block at a column, if it is indented further than the current one. -/
def openBlock (column : Nat) : Lexing Bool := do
  let lexer ← get
  if lexer.indent < column then
    set { lexer with indent := column, indents := lexer.indent :: lexer.indents }
    return true
  else return false

/-- Pass over blanks, comments and line breaks up to the next token. -/
def skipToToken : (fuel : Nat) → Lexing Unit
  | 0 => return
  | fuel + 1 => do
    -- A byte order mark is passed over at the start of the text only.
    if (← get).index == 0 && (← peek).toNat == 0xFEFF then forward 1
    let _ ← takeWhile (· == ' ')
    if (← peek) == '#' then
      let _ ← takeWhile fun c => !isLineStop c
    let lineBreak ← takeBreak
    if !lineBreak.isEmpty then
      -- A new line may start with a key, unless it stands between brackets.
      if (← get).depth == 0 then allowKey true
      skipToToken fuel

/-! ### Directives, labels and tags -/

/-- Pass over the rest of a line, which may hold a comment. -/
def skipLineRest : Lexing Unit := do
  let _ ← takeWhile (· == ' ')
  if (← peek) == '#' then
    let _ ← takeWhile fun c => !isLineStop c
  if !isLineStop (← peek) then fail
  let _ ← takeBreak

/-- Take a label, which is not empty. -/
def takeLabel : Lexing Text := do
  let label ← takeWhile isLabelChar
  if label.isEmpty then fail
  return label

/-- Take a decimal number. -/
def takeNumber : Lexing Nat := do
  let digits ← takeWhile Char.isDigit
  if digits.isEmpty then fail
  return numberOf 10 digits

/-- Take the handle of a tag: an exclamation mark, or a label between two. -/
def takeHandle : Lexing Text := do
  if (← peek) != '!' then fail
  forward 1
  if (← peek) == ' ' then return ['!']
  let label ← takeWhile isLabelChar
  if (← peek) != '!' then fail
  forward 1
  return '!' :: label ++ ['!']

/-- The bytes of percent signs with two digits each. -/
def takePercents : (fuel : Nat) → Lexing Bytes
  | 0 => return []
  | fuel + 1 => do
    if (← peek) != '%' then return []
    let high ← peekAt 1
    let low ← peekAt 2
    if !(isHexDigit high && isHexDigit low) then fail
    forward 3
    let rest ← takePercents fuel
    return UInt8.ofNat (16 * hexValue high + hexValue low) :: rest

/-- The characters of a tag, percent signs decoded. -/
def takeTagParts : (fuel : Nat) → Lexing Text
  | 0 => return []
  | fuel + 1 => do
    let plain ← takeWhile fun c => isTagChar c && c != '%'
    if (← peek) != '%' then return plain
    -- A run of percent signs is decoded as a whole: a character may take several of them.
    let bytes ← takePercents fuel
    match Utf8.decode bytes with
    | .error _ => fail
    | .ok text =>
      let rest ← takeTagParts fuel
      return plain ++ text ++ rest

/-- Take the characters of a tag, which are not empty. -/
def takeTagText : Lexing Text := do
  let text ← takeTagParts ((← get).rest.length + 1)
  if text.isEmpty then fail
  return text

/-- A directive. -/
def takeDirective : Lexing Token := do
  forward 1
  let name ← takeLabel
  if !isSpaceOrStop (← peek) then fail
  let token ←
    if name == "YAML".toList then
      let _ ← takeWhile (· == ' ')
      let major ← takeNumber
      if (← peek) != '.' then fail
      forward 1
      -- The minor version is read and not looked at.
      let _ ← takeNumber
      if !isSpaceOrStop (← peek) then fail
      pure (Token.versionDirective major)
    else if name == "TAG".toList then
      let _ ← takeWhile (· == ' ')
      let handle ← takeHandle
      if (← peek) != ' ' then fail
      let _ ← takeWhile (· == ' ')
      let lead ← takeTagText
      if !isSpaceOrStop (← peek) then fail
      pure (Token.tagDirective handle lead)
    else
      -- An unknown directive is passed over up to the end of its line.
      let _ ← takeWhile fun c => !isLineStop c
      pure Token.otherDirective
  skipLineRest
  return token

/-- The name behind an anchor or alias mark. -/
def takeAnchorName : Lexing Text := do
  forward 1
  let name ← takeLabel
  let c ← peek
  if !(isWordStop c || "?:,]\x7d%@`".toList.contains c) then fail
  return name

/-- Whether an exclamation mark closes a handle before the next blank. -/
def hasHandle (text : Text) : Bool := (text.takeWhile fun c => !isSpaceOrStop c).contains '!'

/-- A tag. -/
def takeTag : Lexing Token := do
  let c ← peekAt 1
  let token ←
    if c == '<' then
      forward 2
      let suffix ← takeTagText
      if (← peek) != '>' then fail
      forward 1
      pure (Token.tag none suffix)
    else if isWordStop c then
      forward 1
      pure (Token.tag none ['!'])
    -- A mark without a second one is the primary handle, and all the rest is the suffix.
    else if hasHandle ((← get).rest.drop 1) then
      let handle ← takeHandle
      let suffix ← takeTagText
      pure (Token.tag (some handle) suffix)
    else
      forward 1
      let suffix ← takeTagText
      pure (Token.tag (some ['!']) suffix)
  if !isSpaceOrStop (← peek) then fail
  return token

/-! ### Block scalars -/

/-- What the head of a block scalar says: whether trailing breaks are kept or dropped, and how far
the text is indented. -/
structure BlockHead where
  keep : Option Bool
  increment : Option Nat

/-- The sign that keeps or drops trailing breaks. -/
def takeChomp : Lexing (Option Bool) := do
  let c ← peek
  if c == '+' || c == '-' then
    forward 1
    return some (c == '+')
  else return none

/-- The digit that tells the indentation. -/
def takeIncrement : Lexing (Option Nat) := do
  let c ← peek
  if c.isDigit then
    if c == '0' then fail
    forward 1
    return some (hexValue c)
  else return none

/-- The head of a block scalar; sign and digit come in either order. -/
def takeBlockHead : Lexing BlockHead := do
  let first ← takeChomp
  let increment ← takeIncrement
  -- The sign may stand on either side of the digit, but only once.
  let keep ← if first.isNone && increment.isSome then takeChomp else pure first
  if !isSpaceOrStop (← peek) then fail
  return ⟨keep, increment⟩

/-- Empty lines and indentation at the start of a block scalar: the breaks, and the widest
indentation. -/
def takeLeadingBreaks : (fuel : Nat) → (widest : Nat) → Lexing (Text × Nat)
  | 0, widest => return ([], widest)
  | fuel + 1, widest => do
    let c ← peek
    if c == ' ' then
      forward 1
      takeLeadingBreaks fuel (max widest (← get).column)
    else if isBreak c then
      let lineBreak ← takeBreak
      let (breaks, widest) ← takeLeadingBreaks fuel widest
      return (lineBreak ++ breaks, widest)
    else return ([], widest)

/-- Pass over spaces up to a column. -/
def skipIndent (indent : Nat) : Lexing Unit := do
  let lexer ← get
  let spaces := (lexer.rest.takeWhile (· == ' ')).length
  forward (min spaces (indent - lexer.column))

/-- Empty lines inside a block scalar. -/
def takeInnerBreaks (indent : Nat) : (fuel : Nat) → Lexing Text
  | 0 => return []
  | fuel + 1 => do
    skipIndent indent
    if isBreak (← peek) then
      let lineBreak ← takeBreak
      let rest ← takeInnerBreaks indent fuel
      return lineBreak ++ rest
    else return []

/-- The lines of a block scalar, where `breaks` are the empty lines before the next one. -/
def takeBlockLines (folded : Bool) (keep : Option Bool) (indent : Nat) :
    (fuel : Nat) → (breaks lineBreak : Text) → Lexing Text
  | 0, _, _ => return []
  | fuel + 1, breaks, lineBreak => do
    let lexer ← get
    -- A line that is indented less, or the end of the text, ends the scalar.
    if lexer.column != indent || lexer.rest.isEmpty then
      return (if keep == some false then [] else lineBreak) ++
        (if keep == some true then breaks else [])
    let solid := !(lexer.charAt 0 == ' ' || lexer.charAt 0 == '\t')
    let text ← takeWhile fun c => !isLineStop c
    let lineBreak ← takeBreak
    let inner ← takeInnerBreaks indent ((← get).rest.length + 1)
    let next ← get
    if next.column == indent && !next.rest.isEmpty then
      let c := next.charAt 0
      -- A line break between two solid lines of a folded scalar becomes a space, and nothing if
      -- empty lines follow, which stand for themselves.
      let joint :=
        if folded && lineBreak == ['\n'] && solid && !(c == ' ' || c == '\t') then
          if inner.isEmpty then [' '] else []
        else lineBreak
      let rest ← takeBlockLines folded keep indent fuel inner []
      return breaks ++ text ++ joint ++ rest
    else
      let rest ← takeBlockLines folded keep indent fuel inner lineBreak
      return breaks ++ text ++ rest

/-- A block scalar. -/
def takeBlockScalar (folded : Bool) : Lexing Token := do
  forward 1
  let head ← takeBlockHead
  skipLineRest
  let lexer ← get
  let fuel := lexer.rest.length + 2
  -- The text is indented further than the block around it, and by one column at least.
  let least : Nat := max 1 (lexer.indent + 1).toNat
  let (breaks, indent) ← match head.increment with
    | none => do
      let (breaks, widest) ← takeLeadingBreaks fuel 0
      pure (breaks, max least widest)
    | some increment => do
      let breaks ← takeInnerBreaks (least + increment - 1) fuel
      pure (breaks, least + increment - 1)
  let text ← takeBlockLines folded head.keep indent fuel breaks []
  return .scalar text false

/-! ### Quoted and plain scalars -/

/-- The empty lines inside a quoted scalar. -/
def takeQuotedBreaks : (fuel : Nat) → Lexing Text
  | 0 => return []
  | fuel + 1 => do
    if (← get).atSeparator then fail
    let _ ← takeWhile fun c => c == ' ' || c == '\t'
    if isBreak (← peek) then
      let lineBreak ← takeBreak
      let rest ← takeQuotedBreaks fuel
      return lineBreak ++ rest
    else return []

/-- What a line break and the empty lines behind it come to: a single line feed becomes a space. -/
def foldBreaks (lineBreak breaks : Text) : Text :=
  if lineBreak != ['\n'] then lineBreak ++ breaks
  else if breaks.isEmpty then [' ']
  else breaks

/-- The blanks inside a quoted scalar. -/
def takeQuotedBlanks (fuel : Nat) : Lexing Text := do
  let blanks ← takeWhile fun c => c == ' ' || c == '\t'
  let c ← peek
  if c == endMark then fail
  else if isBreak c then
    let lineBreak ← takeBreak
    let breaks ← takeQuotedBreaks fuel
    return foldBreaks lineBreak breaks
  else return blanks

/-- What a backslash and the characters behind it stand for. -/
def takeEscape (fuel : Nat) : Lexing Text := do
  forward 1
  let c ← peek
  match escaped? c, escapeWidth? c with
  | some plain, _ =>
    forward 1
    return [plain]
  | none, some width =>
    forward 1
    let digits := (← get).rest.take width
    if digits.length < width || !digits.all isHexDigit then fail
    forward width
    let code := numberOf 16 digits
    -- A number beyond the last code point is refused by the conversion, not by the rules of the
    -- format.
    if 0x10FFFF < code then throw (.badValue "chr() arg not in range(0x110000)")
    return [Char.ofNat code]
  | none, none =>
    -- A backslash at the end of a line joins the lines without a space.
    if isBreak c then
      let _ ← takeBreak
      takeQuotedBreaks fuel
    else fail

/-- The rest of a quoted scalar up to and with its closing quote. -/
def takeQuotedRest (quote : Char) : (fuel : Nat) → Lexing Text
  | 0 => fail
  | fuel + 1 => do
    let c ← peek
    let double := quote == '"'
    if c == quote then
      forward 1
      -- Two single quotes in a row stand for one.
      if !double && (← peek) == '\'' then
        forward 1
        let rest ← takeQuotedRest quote fuel
        return '\'' :: rest
      else return []
    else if double && c == '\\' then
      let piece ← takeEscape fuel
      let rest ← takeQuotedRest quote fuel
      return piece ++ rest
    else if isWordStop c then
      let piece ← takeQuotedBlanks fuel
      let rest ← takeQuotedRest quote fuel
      return piece ++ rest
    else
      forward 1
      let rest ← takeQuotedRest quote fuel
      return c :: rest

/-- A quoted scalar. -/
def takeQuoted : Lexing Token := do
  let quote ← peek
  forward 1
  let text ← takeQuotedRest quote ((← get).rest.length + 2)
  return .scalar text false

/-- The length of the solid run of characters that a plain scalar continues with. -/
def plainRun (nested : Bool) : Text → Nat
  | [] => 0
  | c :: rest =>
    let next := rest.head?.getD endMark
    if isWordStop c then 0
    -- A colon belongs to the scalar unless it could end a key.
    else if c == ':' && (isWordStop next || (nested && ",[]\x7b\x7d".toList.contains next)) then 0
    else if nested && isFlowIndicator c then 0
    else 1 + plainRun nested rest

/-- The empty lines inside a plain scalar, none if documents are separated there. -/
def takePlainBreaks : (fuel : Nat) → Lexing (Option Text)
  | 0 => return some []
  | fuel + 1 => do
    let c ← peek
    if c == ' ' then
      forward 1
      takePlainBreaks fuel
    else if isBreak c then
      let lineBreak ← takeBreak
      if (← get).atSeparator then return none
      let rest ← takePlainBreaks fuel
      return rest.map (lineBreak ++ ·)
    else return some []

/-- The blanks inside a plain scalar: none if it ends there. -/
def takePlainBlanks (fuel : Nat) : Lexing Text := do
  let blanks ← takeWhile (· == ' ')
  if isBreak (← peek) then
    let lineBreak ← takeBreak
    -- The scalar may end here, and a key may start on the next line.
    allowKey true
    if (← get).atSeparator then return []
    match ← takePlainBreaks fuel with
    | none => return []
    | some breaks => return foldBreaks lineBreak breaks
  else return blanks

/-- The rest of a plain scalar, where `blanks` come before its next run. -/
def takePlainRest : (fuel : Nat) → (blanks : Text) → Lexing Text
  | 0, _ => return []
  | fuel + 1, blanks => do
    let lexer ← get
    -- The number sign comes behind blanks here, so it starts a comment.
    if lexer.charAt 0 == '#' then return []
    let count := plainRun (lexer.depth != 0) lexer.rest
    if count == 0 then return []
    allowKey false
    let run := lexer.rest.take count
    forward count
    let next ← takePlainBlanks fuel
    let behind ← get
    -- A line that is indented no further than the block does not continue the scalar.
    if next.isEmpty || behind.charAt 0 == '#' ||
        (behind.depth == 0 && (behind.column : Int) < behind.indent + 1) then
      return blanks ++ run
    else
      let rest ← takePlainRest fuel next
      return blanks ++ run ++ rest

/-- A plain scalar. -/
def takePlain : Lexing Token := do
  let text ← takePlainRest ((← get).rest.length + 1) []
  return .scalar text true

/-! ### Tokens -/

/-- Start a directive or a document, which closes all blocks. -/
def freshStart : Lexing Unit := do
  -- No block is indented less than the column in front of the first one.
  unwind (-1)
  dropKey
  allowKey false

/-- Open brackets. -/
def openFlow (token : Token) : Lexing Unit := do
  markKey
  modify fun lexer => { lexer with depth := lexer.depth + 1 }
  allowKey true
  forward 1
  emit token

/-- Close brackets. -/
def closeFlow (token : Token) : Lexing Unit := do
  dropKey
  if (← get).depth == 0 then fail
  modify fun lexer => { lexer with depth := lexer.depth - 1 }
  allowKey false
  forward 1
  emit token

/-- An entry of a block sequence. -/
def blockEntry : Lexing Unit := do
  let lexer ← get
  if lexer.depth == 0 then
    if !lexer.allowKey then fail
    -- The first entry of a sequence opens its block.
    if ← openBlock lexer.column then emit .blockSequenceStart
  allowKey true
  dropKey
  forward 1
  emit .blockEntry

/-- A key behind a question mark. -/
def explicitKey : Lexing Unit := do
  let lexer ← get
  if lexer.depth == 0 then
    if !lexer.allowKey then fail
    if ← openBlock lexer.column then emit .blockMappingStart
  allowKey (lexer.depth == 0)
  dropKey
  forward 1
  emit .key

/-- A value behind a colon; what stands in front of the colon becomes a key. -/
def valueMark : Lexing Unit := do
  let lexer ← get
  match lexer.keys.find? fun (depth, _) => depth == lexer.depth with
  | some (_, mark) =>
    set { lexer with keys := lexer.keys.filter fun (depth, _) => depth != lexer.depth }
    -- The key was cut before it was known to be one, so its mark is put in front of it now.
    emitBefore mark.number .key
    if lexer.depth == 0 then
      if ← openBlock mark.column then emitBefore mark.number .blockMappingStart
    allowKey false
  | none =>
    if lexer.depth == 0 then
      -- A colon without a key in front of it has an empty one, where a key may stand.
      if !lexer.allowKey then fail
      if ← openBlock lexer.column then emit .blockMappingStart
    allowKey (lexer.depth == 0)
    dropKey
  forward 1
  emit .value

/-- A token in front of which a key may have started. -/
def keyable (take : Lexing Token) : Lexing Unit := do
  markKey
  allowKey false
  let token ← take
  emit token

/-- Whether a plain scalar starts at a place. -/
def startsPlain (lexer : Lexer) : Bool :=
  let c := lexer.charAt 0
  -- Dashes, question marks and colons start a scalar if a solid character follows.
  !isIndicator c ||
    (!isWordStop (lexer.charAt 1) && (c == '-' || (lexer.depth == 0 && (c == '?' || c == ':'))))

/-- The token that the next character starts. -/
def nextToken : Lexing Unit := do
  let lexer ← get
  let c := lexer.charAt 0
  let spaced := isWordStop (lexer.charAt 1)
  let nested := lexer.depth != 0
  -- The order of the questions matters: a dash may be a separator, an entry or the start of a
  -- scalar.
  if c == '%' && lexer.column == 0 then
    freshStart
    let token ← takeDirective
    emit token
  else if lexer.column == 0 && lexer.atSeparator then
    freshStart
    forward 3
    emit (if c == '-' then .documentStart else .documentEnd)
  else if c == '[' then openFlow .flowSequenceStart
  else if c == '{' then openFlow .flowMappingStart
  else if c == ']' then closeFlow .flowSequenceEnd
  else if c == '}' then closeFlow .flowMappingEnd
  else if c == ',' then
    allowKey true
    dropKey
    forward 1
    emit .flowEntry
  else if c == '-' && spaced then blockEntry
  else if c == '?' && (nested || spaced) then explicitKey
  else if c == ':' && (nested || spaced) then valueMark
  else if c == '*' then keyable (return .alias (← takeAnchorName))
  else if c == '&' then keyable (return .anchor (← takeAnchorName))
  else if c == '!' then keyable takeTag
  else if (c == '|' || c == '>') && !nested then
    allowKey true
    dropKey
    let token ← takeBlockScalar (c == '>')
    emit token
  else if c == '\'' || c == '"' then keyable takeQuoted
  else if startsPlain lexer then keyable takePlain
  else fail

/-- All tokens up to the end of the text. -/
def allTokens : (fuel : Nat) → Lexing Unit
  | 0 => fail
  | fuel + 1 => do
    skipToToken ((← get).rest.length + 1)
    dropStaleKeys
    -- A token further to the left closes the blocks that it does not belong to.
    unwind (← get).column
    if (← get).rest.isEmpty then
      unwind (-1)
      dropKey
    else
      nextToken
      allTokens fuel

end Lexing

/-- The tokens of a text. -/
def tokens (text : Text) : Except Fault (List Token) :=
  if text.all isAllowed then do
    -- Each round takes a character at least, so this is enough fuel.
    let (_, lexer) ← (Lexing.allTokens (text.length + 2)).run { rest := text }
    return lexer.tokens.reverse
  else .error .malformed

end ImportOrder.Yaml
