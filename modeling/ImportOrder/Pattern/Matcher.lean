import ImportOrder.Text.Digits
import ImportOrder.Text.Letters
import ImportOrder.Pattern.Basic

/-! Searching a text for a pattern, by trying its choices in order. -/

namespace ImportOrder.Pattern

/-- The characters in front of the current place from right to left, those behind it, and the spans
of the groups matched so far. -/
structure Place where
  before : Text
  behind : Text
  captures : List (Nat × Text)
deriving Repr

/-- The text that a group matched last. -/
def Place.capture? (place : Place) (index : Nat) : Option Text :=
  (place.captures.find? fun (known, _) => known == index).map (·.2)

/-- Whether a character is of a named class. -/
def Category.holds (ascii : Bool) (kind : Category) (c : Char) : Bool :=
  match kind with
  | .digit => if ascii then c.isDigit else (decimalValue? c).isSome
  | .space =>
    if ascii then c == ' ' || (9 ≤ c.toNat && c.toNat ≤ 13) else isBlank c
  | .word =>
    if ascii then c == '_' || c.isAlphanum else isWordChar c

/-- The small letter of a character under the flags. -/
def fold (flags : Flags) (c : Char) : Char :=
  if !flags.ignoreCase then c else if flags.ascii then c.toLower else lowerCase c

/-- The small letters that a code point stands for under the flags. -/
def codeFoldings (flags : Flags) (code : Nat) : List Nat :=
  if !flags.ignoreCase then [code]
  else if flags.ascii then [(Char.ofNat code).toLower.toNat]
  else (foldings (Char.ofNat code)).map Char.toNat

/-- Whether a range holds a small letter or a capital of it. -/
def rangeHolds (flags : Flags) (low high : Nat) (small : Char) : Bool :=
  let inside := fun (c : Char) => low ≤ c.toNat && c.toNat ≤ high
  if !flags.ignoreCase then inside small
  else if flags.ascii then inside small || inside small.toUpper
  -- A letter may have several capitals, and the range may hold any of them.
  else (foldings small).any fun letter => inside letter || (capitalsOf letter).any inside

/-- Whether a set holds a character, which is folded already. -/
def memberHolds (flags : Flags) (c : Char) : Member → Bool
  | .one code => (codeFoldings flags code).contains c.toNat
  | .between low high => rangeHolds flags low high c
  | .category kind negated => kind.holds flags.ascii c != negated

/-- Whether a part that takes one character takes this one. -/
def Part.takes (c : Char) : Part → Bool
  | .char flags code negated => (codeFoldings flags code).contains (fold flags c).toNat != negated
  | .any dotAll => dotAll || c != '\n'
  | .set flags negated members => members.any (memberHolds flags (fold flags c)) != negated
  | _ => false

/-- Whether a word ends or starts at a place. -/
def isBoundary (ascii : Bool) (place : Place) : Bool :=
  let inWord := fun (c : Option Char) => c.any (Category.word.holds ascii)
  inWord place.before.head? != inWord place.behind.head?

/-- Whether a place is the one that an anchor asks for. -/
def Anchor.holds (flags : Flags) (place : Place) : Anchor → Bool
  | .lineStart => place.before.isEmpty || (flags.multiline && place.before.head? == some '\n')
  | .lineEnd =>
    place.behind.isEmpty || place.behind == ['\n'] ||
      (flags.multiline && place.behind.head? == some '\n')
  | .textStart => place.before.isEmpty
  | .textEnd => place.behind.isEmpty
  | .boundary => isBoundary flags.ascii place
  | .noBoundary =>
    -- An empty text has no place inside or outside of words.
    !(place.before.isEmpty && place.behind.isEmpty) && !isBoundary flags.ascii place

/-- The place behind the next character. -/
def Place.step? (place : Place) : Option (Char × Place) :=
  match place.behind with
  | [] => none
  | c :: behind => some (c, { place with before := c :: place.before, behind })

/-- The place behind a text that has to follow, letters compared under the flags. -/
def Place.follow? (flags : Flags) (place : Place) : Text → Option Place
  | [] => some place
  | expected :: rest => do
    let (c, next) ← place.step?
    if fold flags c == fold flags expected then Place.follow? flags next rest else none

/-- The place a number of characters back. -/
def Place.back? (place : Place) : Nat → Option Place
  | 0 => some place
  | n + 1 =>
    match place.before with
    | [] => none
    | c :: before => Place.back? { place with before, behind := c :: place.behind } n

/-- Remember what a group matched between two places. -/
def Place.remember (start : Place) (index : Nat) (stop : Place) : Place :=
  let length := start.behind.length - stop.behind.length
  -- Only what a group matched last counts.
  let kept := stop.captures.filter fun (known, _) => known != index
  { stop with captures := (index, start.behind.take length) :: kept }

mutual

/-- Match parts one behind the other and go on with `next`, trying the choices in order. -/
def matchAll (widths : List (Nat × Width)) :
    (fuel : Nat) → List Part → Place → (Place → Option Place) → Option Place
  | 0, _, _, _ => none
  | _ + 1, [], place, next => next place
  -- What comes behind goes into the continuation, so that a choice made here can be taken back
  -- there.
  | fuel + 1, part :: rest, place, next =>
    matchPart widths fuel part place fun place => matchAll widths fuel rest place next

/-- Match one part and go on with `next`. -/
def matchPart (widths : List (Nat × Width)) :
    (fuel : Nat) → Part → Place → (Place → Option Place) → Option Place
  | 0, _, _, _ => none
  | fuel + 1, part, place, next =>
    match part with
    | .anchor flags anchor => if anchor.holds flags place then next place else none
    | .group none body => matchAll widths fuel body place next
    | .group (some index) body =>
      matchAll widths fuel body place fun stop => next (place.remember index stop)
    | .branch alternatives => matchAny widths fuel alternatives place next
    | .loop .greedy least most body => greedyLoop widths fuel least most body none place next
    | .loop .reluctant least most body => reluctantLoop widths fuel least most body none place next
    -- The loop is matched on its own and gives nothing back.
    | .loop .possessive least most body =>
      match greedyLoop widths fuel least most body none place some with
      | some stop => next stop
      | none => none
    | .look ahead negated body =>
      -- A look behind has one width, so it starts that far back.
      let start := if ahead then some place else place.back? (widthAll widths body).least
      let found := start.bind fun start => matchAll widths fuel body start some
      match found, negated with
      | some stop, false => next { place with captures := stop.captures }
      -- Groups matched inside a look that has to fail are forgotten.
      | none, true => next place
      | _, _ => none
    | .atomic body =>
      match matchAll widths fuel body place some with
      | some stop => next stop
      | none => none
    | .reference flags index =>
      match place.capture? index with
      | none => none
      | some text =>
        match place.follow? flags text with
        | some place => next place
        | none => none
    | .conditional index yes no =>
      matchAll widths fuel (if (place.capture? index).isSome then yes else no) place next
    | single =>
      match place.step? with
      | some (c, after) => if single.takes c then next after else none
      | none => none

/-- Match the first alternative that leads on. -/
def matchAny (widths : List (Nat × Width)) :
    (fuel : Nat) → List (List Part) → Place → (Place → Option Place) → Option Place
  | 0, _, _, _ => none
  | _ + 1, [], _, _ => none
  | fuel + 1, parts :: rest, place, next =>
    match matchAll widths fuel parts place next with
    | some found => some found
    | none => matchAny widths fuel rest place next

/-- Match a body as often as possible before going on; `last` is what was left before the last
round, and a round that takes nothing is the last one. -/
def greedyLoop (widths : List (Nat × Width)) :
    (fuel least : Nat) → Option Nat → List Part → Option Nat → Place → (Place → Option Place) →
      Option Place
  | 0, _, _, _, _, _, _ => none
  | fuel + 1, least, most, body, last, place, next =>
    let again := fun (left : Nat) => matchAll widths fuel body place fun stop =>
      greedyLoop widths fuel left (most.map (· - 1)) body (some place.behind.length) stop next
    match least with
    | least + 1 => again least
    | 0 =>
      -- A round that took nothing would be repeated for ever.
      if most == some 0 || last == some place.behind.length then next place
      else
        match again 0 with
        | some found => some found
        | none => next place

/-- Match a body as seldom as possible before going on. -/
def reluctantLoop (widths : List (Nat × Width)) :
    (fuel least : Nat) → Option Nat → List Part → Option Nat → Place → (Place → Option Place) →
      Option Place
  | 0, _, _, _, _, _, _ => none
  | fuel + 1, least, most, body, last, place, next =>
    let again := fun (left : Nat) => matchAll widths fuel body place fun stop =>
      reluctantLoop widths fuel left (most.map (· - 1)) body (some place.behind.length) stop next
    match least with
    | least + 1 => again least
    | 0 =>
      -- Going on is tried before another round.
      match next place with
      | some found => some found
      | none =>
        if most == some 0 || last == some place.behind.length then none else again 0

end

end ImportOrder.Pattern

namespace ImportOrder.Pattern

/-- Enough rounds for every choice: each part can be entered once for every character. -/
def rounds (pattern : Pattern) (length : Nat) : Nat := (weightAll pattern.parts + 2) * (length + 3)

/-- Match a pattern at a place: what it matched, and its groups. -/
def matchAt (pattern : Pattern) (place : Place) : Option (Text × Place) :=
  let length := place.behind.length
  match matchAll pattern.widths (pattern.rounds length) pattern.parts place some with
  | none => none
  | some stop => some (place.behind.take (length - stop.behind.length), stop)

/-- Match a pattern at the first place, from left to right, where it matches. -/
def searchFrom (pattern : Pattern) (before : Text) : Text → Option (Text × Place)
  -- A pattern may match nothing at the very end.
  | [] => matchAt pattern ⟨before, [], []⟩
  | c :: behind =>
    match matchAt pattern ⟨before, c :: behind, []⟩ with
    | some found => some found
    | none => searchFrom pattern (c :: before) behind

/-- What the last group of a pattern matched in a text, the whole match for a pattern without
groups; none if the pattern is not found or its last group took no part. -/
def lastGroup? (pattern : Pattern) (text : Text) : Option Text :=
  match searchFrom pattern [] text with
  | none => none
  | some (whole, place) =>
    -- The last group is the one with the highest number.
    if pattern.groups == 0 then some whole else place.capture? pattern.groups

end ImportOrder.Pattern
