import ImportOrder.Text.Quoted
import ImportOrder.Text.Letters
import ImportOrder.Pattern.Basic

/-! Reading a regular expression, with the place and wording of its first fault. Groups may be nested
to any depth, and no characters are known by name. -/

namespace ImportOrder.Pattern

/-- The state of reading: what is left, its offset, and what is known of the groups so far. `behind`
is the number of groups known when an enclosing look behind began, and `awaited` holds the groups
that conditions ask for, with the places of the questions. -/
structure Scan where
  rest : Text
  position : Nat := 0
  flags : Flags := {}
  groups : Nat := 0
  -- A group has a width only once it is closed, which is how an open one is told.
  widths : List (Nat × Width) := []
  names : List (Text × Nat) := []
  behind : Option Nat := none
  awaited : List (Nat × Nat) := []

/-- A reading step: it changes the state or refuses the pattern. -/
abbrev Reader := StateT Scan (Except Refusal)

namespace Reader

/-- Give up with a fault some characters in front of the next token. -/
def fail {α : Type} (problem : String) (back : Nat := 0) : Reader α := do
  -- Reading stands behind the token at fault, or behind several of them.
  throw (.fault ⟨problem, some ((← get).position - back)⟩)

/-- The next token: a character, or a backslash with the character behind it. -/
def peek : Reader (Option Text) := do
  match (← get).rest with
  | [] => return none
  -- A backslash alone is no token; it is refused before it is asked for.
  | '\\' :: c :: _ => return some ['\\', c]
  | c :: _ => return some [c]

/-- A backslash that ends a pattern is found out as soon as it is next. -/
def checkEnd : Reader Unit := do
  if (← get).rest == ['\\'] then fail "bad escape (end of pattern)"

/-- Take the next token. -/
def take : Reader (Option Text) := do
  let token ← peek
  let width := (token.getD []).length
  modify fun scan =>
    { scan with rest := scan.rest.drop width, position := scan.position + width }
  -- The fault at the end comes out with the token in front of it.
  checkEnd
  return token

/-- Take the next token if it is one character. -/
def accept (c : Char) : Reader Bool := do
  if (← peek) == some [c] then
    discard take
    return true
  else return false

/-- Take up to a number of tokens that are characters of a kind. -/
def takeWhile (wanted : Char → Bool) : Nat → Reader Text
  | 0 => return []
  | n + 1 => do
    match ← peek with
    | some [c] =>
      if wanted c then
        discard take
        return c :: (← takeWhile wanted n)
      else return []
    | _ => return []

/-- Take the tokens up to a closing character; `name` says what they spell. -/
def takeUntil (close : Char) (name : String) : (fuel : Nat) → Text → Reader Text
  | 0, found => return found
  | fuel + 1, found => do
    match ← take with
    | none =>
      if found.isEmpty then fail s!"missing {name}"
      else fail s!"missing {close}, unterminated name" found.length
    | some token =>
      if token == [close] then
        -- An empty name is told in front of its closing character.
        if found.isEmpty then fail s!"missing {name}" 1 else return found
      else takeUntil close name fuel (found ++ token)

end Reader

open Reader

/-- Whether a character is a hexadecimal digit. -/
def isHexDigit (c : Char) : Bool := c.isDigit || ('a' ≤ c && c ≤ 'f') || ('A' ≤ c && c ≤ 'F')

/-- Whether a character is an octal digit. -/
def isOctalDigit (c : Char) : Bool := '0' ≤ c && c ≤ '7'

/-- The value of a digit in any base up to sixteen. -/
def digitValue (c : Char) : Nat :=
  if c.isDigit then c.toNat - '0'.toNat
  else if 'a' ≤ c && c ≤ 'f' then c.toNat - 'a'.toNat + 10
  else c.toNat - 'A'.toNat + 10

/-- The number that digits write in a base. -/
def numberOf (base : Nat) (digits : Text) : Nat :=
  digits.foldl (fun n c => base * n + digitValue c) 0

/-- The letters that stand for control characters. -/
def controlCode? (c : Char) : Option Nat :=
  match c with
  | 'a' => some 7
  | 'b' => some 8
  | 'f' => some 12
  | 'n' => some 10
  | 'r' => some 13
  | 't' => some 9
  | 'v' => some 11
  | '\\' => some 92
  | _ => none

/-- The letters that stand for classes of characters. -/
def category? (c : Char) : Option (Category × Bool) :=
  match c with
  | 'd' => some (.digit, false)
  | 'D' => some (.digit, true)
  | 's' => some (.space, false)
  | 'S' => some (.space, true)
  | 'w' => some (.word, false)
  | 'W' => some (.word, true)
  | _ => none

/-- The letters that stand for places. -/
def anchor? (c : Char) : Option Anchor :=
  match c with
  | 'A' => some .textStart
  | 'Z' => some .textEnd
  | 'b' => some .boundary
  | 'B' => some .noBoundary
  | _ => none

/-- Read the digits of a numbered escape; all of them have to be there. -/
def readHexEscape (letter : Char) (count : Nat) : Reader Nat := do
  let digits ← takeWhile isHexDigit count
  if digits.length != count then
    let escape := '\\' :: letter :: digits
    fail s!"incomplete escape {String.ofList escape}" escape.length
  else return numberOf 16 digits

/-- Read the name of a character; no names are known. -/
def readNamedEscape (fuel : Nat) : Reader Nat := do
  if ← accept '{' then
    -- The table of names is not part of this: every name counts as unknown.
    let name ← takeUntil '}' "character name" fuel []
    fail s!"undefined character name {String.ofList (quoted name)}" (name.length + 4)
  else fail "missing \x7b"

/-- Read an escape that both sets and sequences know, behind its letter. -/
def readCommonEscape (fuel : Nat) (letter : Char) : Reader Nat := do
  match letter with
  | 'x' => readHexEscape 'x' 2
  | 'u' => readHexEscape 'u' 4
  | 'U' =>
    let code ← readHexEscape 'U' 8
    if 0x10FFFF < code then fail s!"bad escape \\U{String.ofList (hexDigits 8 code)}" 10
    else return code
  | 'N' => readNamedEscape fuel
  -- Letters and digits are kept for escapes to come; a mark stands for itself.
  | c =>
    if c.isAlpha || c.isDigit then fail s!"bad escape \\{c}" 2 else return c.toNat

/-- The octal escape of digits, which may not go beyond one byte. -/
def octalCode (digits : Text) : Reader Nat := do
  let code := numberOf 8 digits
  if 0o377 < code then
    fail s!"octal escape value \\{String.ofList digits} outside of range 0-0o377" (digits.length + 1)
  else return code

/-- Read an escape inside a set, behind its letter. -/
def readSetEscape (fuel : Nat) (letter : Char) : Reader Member := do
  -- Inside a set there are no places, so the letter of a boundary is a control character.
  match controlCode? letter, category? letter with
  | some code, _ => return .one code
  | none, some (kind, negated) => return .category kind negated
  | none, none =>
    if isOctalDigit letter then
      return .one (← octalCode (letter :: (← takeWhile isOctalDigit 2)))
    else return .one (← readCommonEscape fuel letter)

/-- Whether a group is known and closed. -/
def isClosed (scan : Scan) (index : Nat) : Bool := scan.widths.any fun (known, _) => known == index

/-- Inside a look behind only groups closed before it may be asked for. -/
def checkBehind (index : Nat) : Reader Unit := do
  let scan ← get
  match scan.behind with
  | none => return
  | some groups =>
    if !isClosed scan index then fail "cannot refer to an open group"
    else if groups < index then
      fail "cannot refer to group defined in the same lookbehind subpattern"

/-- Read a reference to a group by number, or an octal escape of three digits. -/
def readNumberEscape (flags : Flags) (first : Char) : Reader Part := do
  -- Two digits are a group; three octal ones are a character.
  let second ← takeWhile Char.isDigit 1
  let third ←
    if isOctalDigit first && second.any isOctalDigit then takeWhile isOctalDigit 1 else pure []
  let digits := first :: second ++ third
  if !third.isEmpty then return .char flags (← octalCode digits) false
  else
    let index := numberOf 10 digits
    let scan ← get
    if index ≤ scan.groups then
      if isClosed scan index then
        checkBehind index
        return .reference flags index
      else fail "cannot refer to an open group" (digits.length + 1)
    else fail s!"invalid group reference {index}" digits.length

/-- Read an escape in a sequence, behind its letter. -/
def readEscape (fuel : Nat) (flags : Flags) (letter : Char) : Reader Part := do
  -- Outside of sets the letter of a boundary stands for the place, so places are asked first.
  match category? letter, anchor? letter, controlCode? letter with
  | some (kind, negated), _, _ => return .set flags false [.category kind negated]
  | none, some place, _ => return .anchor flags place
  | none, none, some code => return .char flags code false
  | none, none, none =>
    if letter == '0' then
      return .char flags (numberOf 8 ('0' :: (← takeWhile isOctalDigit 2))) false
    else if letter.isDigit then readNumberEscape flags letter
    else return .char flags (← readCommonEscape fuel letter) false

/-- Read a member of a set that starts with a token. -/
def readMember (fuel : Nat) (token : Text) : Reader Member := do
  match token with
  | ['\\', letter] => readSetEscape fuel letter
  | c :: _ => return .one c.toNat
  | [] => return .one 0

/-- Read the members of a set up to its closing bracket, where `start` is the offset of the opening
one. -/
def readSet (start : Nat) : (fuel : Nat) → List Member → Reader (List Member)
  | 0, members => return members
  | fuel + 1, members => do
    let openSet : Reader (List Member) := do
      fail "unterminated character set" ((← get).position - start)
    match ← take with
    | none => openSet
    | some token =>
      -- A closing bracket right at the start is a member.
      if token == [']'] && !members.isEmpty then return members
      else
        let low ← readMember fuel token
        if ← accept '-' then
          match ← take with
          | none => openSet
          -- A dash in front of the closing bracket stands for itself.
          | some [']'] => return members ++ [low, .one '-'.toNat]
          | some other =>
            let high ← readMember fuel other
            let bad := fail
              s!"bad character range {String.ofList token}-{String.ofList other}"
              (token.length + 1 + other.length)
            match low, high with
            | .one a, .one b =>
              if b < a then bad else readSet start fuel (members ++ [.between a b])
            -- A class has no first and no last character.
            | _, _ => bad
        else readSet start fuel (members ++ [low])

/-- The flag of a letter. -/
def flagLetters : List Char := ['i', 'L', 'm', 's', 'x', 'a', 't', 'u']

/-- Flags with one of them set or cleared. -/
def Flags.put (flags : Flags) (letter : Char) (value : Bool) : Flags :=
  match letter with
  | 'i' => { flags with ignoreCase := value }
  | 'm' => { flags with multiline := value }
  | 's' => { flags with dotAll := value }
  | 'x' => { flags with verbose := value }
  | 'a' => { flags with ascii := value }
  | 'u' => if value then { flags with ascii := false } else flags
  | _ => flags

/-- The letters that choose the kind of text, of which only one may be given. -/
def isTypeLetter (c : Char) : Bool := c == 'a' || c == 'L' || c == 'u'

/-- Read the letters of flags to be set, from a first one on, up to a mark that ends them. -/
def readFlagsOn : (fuel : Nat) → (letter : Char) → List Char → Reader (List Char × Char)
  | 0, letter, found => return (found, letter)
  | fuel + 1, letter, found => do
    -- The letter was taken before, so the fault lies right behind it.
    if letter == 'L' then fail "bad inline flags: cannot use 'L' flag with a str pattern"
    let found := found ++ [letter]
    if isTypeLetter letter && found.any (fun other => isTypeLetter other && other != letter) then
      fail "bad inline flags: flags 'a', 'u' and 'L' are incompatible"
    match ← take with
    | none => fail "missing -, : or )"
    | some token =>
      match token with
      | [c] =>
        if c == ')' || c == '-' || c == ':' then return (found, c)
        else if flagLetters.contains c then readFlagsOn fuel c found
        else fail (if isWordChar c && !c.isDigit && c != '_' then "unknown flag" else "missing -, : or )") 1
      | _ => fail "missing -, : or )" token.length

/-- Read the letters of flags to be cleared, from a first one on, up to the colon. -/
def readFlagsOff : (fuel : Nat) → (letter : Char) → List Char → Reader (List Char)
  | 0, _, found => return found
  | fuel + 1, letter, found => do
    -- One kind of text has to hold, so none can be turned off.
    if isTypeLetter letter then
      fail "bad inline flags: cannot turn off flags 'a', 'u' and 'L'"
    let found := found ++ [letter]
    match ← take with
    | none => fail "missing :"
    | some token =>
      match token with
      | [c] =>
        if c == ':' then return found
        else if flagLetters.contains c then readFlagsOff fuel c found
        else fail (if isWordChar c && !c.isDigit && c != '_' then "unknown flag" else "missing :") 1
      | _ => fail "missing :" token.length

/-- Read inline flags from their first letter on: letters to set and to clear, or none of the latter
for flags of the whole pattern. -/
def readFlags (fuel : Nat) (letter : Char) : Reader (List Char × Option (List Char)) := do
  let (on, mark) ← if letter == '-' then pure ([], '-') else readFlagsOn fuel letter []
  -- Closed at once, the flags are for the whole pattern.
  if mark == ')' then return (on, none)
  if on.contains 't' then fail "bad inline flags: cannot turn on global flag" 1
  let off ←
    if mark == '-' then
      match ← take with
      | none => fail "missing flag"
      | some [c] =>
        if flagLetters.contains c then readFlagsOff fuel c []
        else fail (if isWordChar c && !c.isDigit && c != '_' then "unknown flag" else "missing flag") 1
      | some token => fail "missing flag" token.length
    else pure []
  if off.contains 't' then fail "bad inline flags: cannot turn off global flag" 1
  if on.any off.contains then fail "bad inline flags: flag turned on and off" 1
  return (on, some off)

/-- Whether a text can name a group. -/
def isGroupName (name : Text) : Bool :=
  match name with
  | [] => false
  | c :: rest => isWordChar c && !c.isDigit && rest.all isWordChar

/-- Refuse a name that no group can have. -/
def checkGroupName (name : Text) : Reader Unit := do
  if !isGroupName name then
    fail s!"bad character in group name {String.ofList (quoted name)}" (name.length + 1)

/-- The most that a repetition may ask for. -/
def maxRepeat : Nat := 4294967295

/-- The number of repetitions that digits write, if it can be used. -/
def repetitions (digits : Text) : Reader Nat := do
  let number := numberOf 10 digits
  -- The number is read before its size is looked at.
  if maxIntegerDigits < digits.length then throw (.excess (.digits digits.length))
  if maxRepeat ≤ number then throw (.excess .repetitions)
  return number

/-- Read the bounds of a repetition behind its brace; none if the brace stands for itself. -/
def readBounds (fuel : Nat) : Reader (Option (Nat × Option Nat)) := do
  let start ← get
  -- Two braces with nothing between them stand for themselves.
  if (← peek) == some ['}'] then return none
  let low ← takeWhile Char.isDigit fuel
  let high ← if ← accept ',' then takeWhile Char.isDigit fuel else pure low
  if !(← accept '}') then
    -- What looked like bounds stands for itself and is read again.
    set start
    return none
  let least ← repetitions low
  let most ← if high.isEmpty then pure none else some <$> repetitions high
  if most.any (· < least) then
    fail "min repeat greater than max repeat" ((← get).position - start.position)
  return some (least, most)

/-- Whether a part cannot be repeated because it is a place or nothing at all. -/
def cannotRepeat : List Part → Bool
  | [] => true
  | .anchor .. :: _ => true
  | _ => false

/-- Read the greed of a repetition behind its bounds. -/
def readGreed : Reader Greed := do
  if ← accept '?' then return .reluctant
  if ← accept '+' then return .possessive
  return .greedy

/-- Turn the last part into a repetition, with its greed read from the pattern. `back` is the number
of characters that the repetition has been written with. -/
def readRepeat (parts : List Part) (least : Nat) (most : Option Nat) (back : Nat) :
    Reader (List Part) := do
  -- The parts come in reverse, so the first of them is the one to be repeated.
  if cannotRepeat parts then fail "nothing to repeat" back
  match parts with
  | [] => return []
  | .loop .. :: _ => fail "multiple repeat" back
  | part :: before =>
    -- A group without a number only holds its parts together.
    let body := match part with
      | .group none body => body
      | other => [other]
    return .loop (← readGreed) least most body :: before

/-- Skip a comment of a pattern in verbose form, up to the end of its line. -/
def skipComment : (fuel : Nat) → Reader Unit
  | 0 => return
  | fuel + 1 => do
    match ← take with
    | none => return
    | some ['\n'] => return
    | some _ => skipComment fuel

/-- Skip a comment group up to its closing bracket. -/
def skipCommentGroup (start : Nat) : (fuel : Nat) → Reader Unit
  | 0 => return
  | fuel + 1 => do
    match ← peek with
    | none => fail "missing ), unterminated comment" ((← get).position - start)
    | some token =>
      discard take
      if token == [')'] then return else skipCommentGroup start fuel

/-- Ask for the bracket that closes a group opened at an offset. -/
def closeGroup (start : Nat) : Reader Unit := do
  if !(← accept ')') then
    fail "missing ), unterminated subpattern" ((← get).position - start)

/-- Number a new group, and give it its name. -/
def openGroup (name : Option Text) : Reader Nat := do
  let scan ← get
  let index := scan.groups + 1
  match name with
  | none => set { scan with groups := index }
  | some name =>
    match scan.names.find? fun (known, _) => known == name with
    | some (_, old) =>
      fail (s!"redefinition of group name {String.ofList (quoted name)} as group {index}; " ++
        s!"was group {old}") (name.length + 1)
    | none => set { scan with groups := index, names := (name, index) :: scan.names }
  return index

/-- The blanks that a pattern in verbose form may hold. -/
def isVerboseBlank (c : Char) : Bool := c == ' ' || (9 ≤ c.toNat && c.toNat ≤ 13)

/-- The group of a name, which has to be closed. -/
def namedGroup (name : Text) : Reader Nat := do
  -- Names are known from where their groups are opened.
  let scan ← get
  match scan.names.find? fun (known, _) => known == name with
  | none => fail s!"unknown group name {String.ofList (quoted name)}" (name.length + 1)
  | some (_, index) => return index

/-- The group that a condition asks for, by name or by number. -/
def conditionGroup (name : Text) : Reader Nat := do
  if isGroupName name then namedGroup name
  else if !name.isEmpty && name.all Char.isDigit then
    let index := numberOf 10 name
    if index == 0 then fail "bad group number" (name.length + 1)
    -- A group that opens later may be asked for; only the first question is remembered.
    modify fun scan =>
      if scan.awaited.any fun (known, _) => known == index then scan
      else { scan with awaited := scan.awaited ++ [(index, scan.position - name.length - 1)] }
    return index
  else fail s!"bad character in group name {String.ofList (quoted name)}" (name.length + 1)

mutual

/-- Read alternatives. Flags of the whole pattern, found in the first one, hold in the others too.
-/
def readAlternatives : (fuel : Nat) → Flags → (outermost : Bool) → List (List Part) →
    Reader (List Part)
  | 0, _, _, _ => return []
  | fuel + 1, flags, outermost, found => do
    let parts ← readSequence fuel flags (outermost && found.isEmpty) []
    let found := found ++ [parts]
    if ← accept '|' then
      let scan ← get
      -- Flags set inside the first alternative change the pattern as a whole.
      let flags := if outermost then scan.flags else flags
      readAlternatives fuel flags outermost found
    else
      -- A single alternative is no choice.
      match found with
      | [parts] => return parts
      | alternatives => return [.branch alternatives]

/-- Read parts up to a bar or a closing bracket; those read so far come in reverse. -/
def readSequence : (fuel : Nat) → Flags → (first : Bool) → List Part → Reader (List Part)
  | 0, _, _, parts => return parts.reverse
  | fuel + 1, flags, first, parts => do
    -- What ends a sequence is left for the caller, who knows whether it may stand there.
    match ← peek with
    | none => return parts.reverse
    | some ['|'] => return parts.reverse
    | some [')'] => return parts.reverse
    | some token =>
      discard take
      match token with
      | ['\\', letter] =>
        let part ← readEscape fuel flags letter
        readSequence fuel flags first (part :: parts)
      | [c] =>
        -- In verbose form blanks and comments stand for nothing.
        if flags.verbose && isVerboseBlank c then readSequence fuel flags first parts
        else if flags.verbose && c == '#' then
          skipComment fuel
          readSequence fuel flags first parts
        else if c == '.' then readSequence fuel flags first (.any flags.dotAll :: parts)
        else if c == '^' then readSequence fuel flags first (.anchor flags .lineStart :: parts)
        else if c == '$' then readSequence fuel flags first (.anchor flags .lineEnd :: parts)
        else if c == '[' then
          let start := (← get).position - 1
          let negated ← accept '^'
          let members ← readSet start fuel []
          readSequence fuel flags first (.set flags negated members :: parts)
        else if c == '*' then
          readSequence fuel flags first (← readRepeat parts 0 none 1)
        else if c == '+' then
          readSequence fuel flags first (← readRepeat parts 1 none 1)
        else if c == '?' then
          readSequence fuel flags first (← readRepeat parts 0 (some 1) 1)
        else if c == '{' then
          let start := (← get).position
          match ← readBounds fuel with
          | none => readSequence fuel flags first (.char flags c.toNat false :: parts)
          | some (least, most) =>
            let back := (← get).position - start + 1
            readSequence fuel flags first (← readRepeat parts least most back)
        else if c == '(' then
          let start := (← get).position - 1
          match ← readGroup fuel flags (first && parts.isEmpty) start with
          | (flags, none) => readSequence fuel flags first parts
          | (flags, some part) => readSequence fuel flags first (part :: parts)
        else readSequence fuel flags first (.char flags c.toNat false :: parts)
      | _ => return parts.reverse

/-- Read a group behind its opening bracket: the part it is, if it is one, and the flags from then
on. -/
def readGroup : (fuel : Nat) → Flags → (atStart : Bool) → (start : Nat) →
    Reader (Flags × Option Part)
  | 0, flags, _, _ => return (flags, none)
  | fuel + 1, flags, atStart, start => do
    -- Without a question mark the group remembers its match.
    if !(← accept '?') then
      return (flags, some (← readBody fuel flags start none))
    match ← take with
    | none => fail "unexpected end of pattern"
    | some ['P'] =>
      if ← accept '<' then
        let name ← takeUntil '>' "group name" fuel []
        checkGroupName name
        return (flags, some (← readBody fuel flags start (some name)))
      else if ← accept '=' then
        let name ← takeUntil ')' "group name" fuel []
        checkGroupName name
        let index ← namedGroup name
        if !isClosed (← get) index then fail "cannot refer to an open group" (name.length + 1)
        checkBehind index
        return (flags, some (.reference flags index))
      else
        match ← take with
        | none => fail "unexpected end of pattern"
        | some token =>
          fail s!"unknown extension ?P{String.ofList token}" (token.length + 2)
    | some [':'] =>
      let body ← readAlternatives fuel flags false []
      closeGroup start
      return (flags, some (.group none body))
    | some ['#'] =>
      skipCommentGroup start fuel
      return (flags, none)
    | some ['='] => return (flags, some (← readLook fuel flags start true false))
    | some ['!'] => return (flags, some (← readLook fuel flags start true true))
    | some ['<'] =>
      match ← take with
      | none => fail "unexpected end of pattern"
      | some ['='] => return (flags, some (← readLook fuel flags start false false))
      | some ['!'] => return (flags, some (← readLook fuel flags start false true))
      | some token =>
        fail s!"unknown extension ?<{String.ofList token}" (token.length + 2)
    | some ['('] =>
      let name ← takeUntil ')' "group name" fuel []
      let index ← conditionGroup name
      checkBehind index
      -- A condition has two branches at most, so a bar ends the first of them only once.
      let yes ← readSequence fuel flags false []
      let no ←
        if ← accept '|' then
          let no ← readSequence fuel flags false []
          if (← peek) == some ['|'] then fail "conditional backref with more than two branches"
          pure no
        else pure []
      closeGroup start
      return (flags, some (.conditional index yes no))
    | some ['>'] =>
      let body ← readAlternatives fuel flags false []
      closeGroup start
      return (flags, some (.atomic body))
    | some token =>
      match token with
      | [c] =>
        if flagLetters.contains c || c == '-' then
          match ← readFlags fuel c with
          | (on, none) =>
            modify fun scan =>
              { scan with flags := on.foldl (fun flags letter => flags.put letter true) scan.flags }
            if !atStart then
              fail "global flags not at the start of the expression" ((← get).position - start)
            return ((← get).flags, none)
          | (on, some off) =>
            let inner := on.foldl (fun flags letter => flags.put letter true) flags
            let inner := off.foldl (fun flags letter => flags.put letter false) inner
            let body ← readAlternatives fuel inner false []
            closeGroup start
            -- A group that changes flags is kept apart, so that a repetition sees it as one part.
            return (flags, some (.group none [.group none body]))
        else fail s!"unknown extension ?{c}" 2
      | _ => fail s!"unknown extension ?{String.ofList token}" (token.length + 1)

/-- Read the body of a group that remembers its match. -/
def readBody : (fuel : Nat) → Flags → (start : Nat) → Option Text → Reader Part
  | 0, _, _, _ => return .group none []
  | fuel + 1, flags, start, name => do
    let index ← openGroup name
    let body ← readAlternatives fuel flags false []
    closeGroup start
    -- The group is closed now and may be referred to.
    modify fun scan => { scan with widths := (index, widthAll scan.widths body) :: scan.widths }
    return .group (some index) body

/-- Read the body of a look ahead or behind. -/
def readLook : (fuel : Nat) → Flags → (start : Nat) → (ahead negated : Bool) → Reader Part
  | 0, _, _, ahead, negated => return .look ahead negated []
  | fuel + 1, flags, start, ahead, negated => do
    -- Only the outermost look behind counts the groups that were there before it.
    let outer := (← get).behind
    if !ahead && outer.isNone then
      modify fun scan => { scan with behind := some scan.groups }
    let body ← readAlternatives fuel flags false []
    if !ahead && outer.isNone then modify fun scan => { scan with behind := none }
    closeGroup start
    return .look ahead negated body

end

/-- Read a whole pattern. -/
def readWhole (fuel : Nat) : Reader (List Part) := do
  checkEnd
  let parts ← readAlternatives fuel {} true []
  -- Only a closing bracket can be left over.
  match ← peek with
  | some _ => fail "unbalanced parenthesis"
  | none => return parts

end ImportOrder.Pattern

namespace ImportOrder

/-- The pattern that a text writes. -/
def Pattern.compile (text : Text) : Except Pattern.Refusal Pattern := do
  let (parts, scan) ← (Pattern.readWhole (2 * text.length + 4)).run { rest := text }
  -- Conditions may ask for groups that open later, so they are checked at the end.
  match scan.awaited.find? fun (index, _) => scan.groups < index with
  | some (index, position) =>
    throw (.fault ⟨s!"invalid group reference {index}", some position⟩)
  | none =>
    if Pattern.fixedBehindAll scan.widths parts then return ⟨parts, scan.groups, scan.widths⟩
    else throw (.fault ⟨"look-behind requires fixed-width pattern", none⟩)

end ImportOrder
