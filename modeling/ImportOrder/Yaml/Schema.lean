import ImportOrder.Document.Display
import ImportOrder.Text.Digits
import ImportOrder.Yaml.Token

/-! Scalars and the values they stand for: which plain scalars are numbers, truth values, dates or
null, and what value a tagged scalar has. -/

namespace ImportOrder.Yaml

namespace Tag

/-- The space of the common tags. -/
def common : String := "tag:yaml.org,2002:"

/-- The tag of null. -/
def null : String := common ++ "null"

/-- The tag of truth values. -/
def bool : String := common ++ "bool"

/-- The tag of whole numbers. -/
def int : String := common ++ "int"

/-- The tag of floating-point numbers. -/
def float : String := common ++ "float"

/-- The tag of days and moments. -/
def timestamp : String := common ++ "timestamp"

/-- The tag of texts. -/
def str : String := common ++ "str"

/-- The tag of lists. -/
def seq : String := common ++ "seq"

/-- The tag of lists of pairs. -/
def pairs : String := common ++ "pairs"

/-- The tag of lists of pairs that are the entries of a mapping in order. -/
def omap : String := common ++ "omap"

/-- The tag of mappings. -/
def map : String := common ++ "map"

/-- The tag of the key that takes in other mappings. -/
def merge : String := common ++ "merge"

/-- The tag of the key that holds the value of a mapping. -/
def value : String := common ++ "value"

end Tag

/-- A text without the sign in front of it. -/
def unsigned (text : Text) : Text :=
  match text with
  | '+' :: rest => rest
  | '-' :: rest => rest
  | text => text

/-- A digit of a base, or an underscore. -/
def isSpacedDigit (isDigit : Char → Bool) (c : Char) : Bool := isDigit c || c == '_'

/-- Digits, the first of which is one of some. -/
def isDigits (first : Char → Bool) (text : Text) : Bool :=
  match text with
  | [] => false
  | c :: rest => first c && rest.all (isSpacedDigit Char.isDigit)

/-- A sixtieth: one digit, or two of which the first is below six. -/
def isSixtieth : Text → Bool
  | [c] => c.isDigit
  | [c, d] => '0' ≤ c && c ≤ '5' && d.isDigit
  | _ => false

/-- A digit other than zero. -/
def isPositiveDigit (c : Char) : Bool := c.isDigit && c != '0'

/-- Not empty, and each character of a kind. -/
def isRun (wanted : Char → Bool) (text : Text) : Bool := !text.isEmpty && text.all wanted

/-- Whether a plain scalar is a whole number. -/
def isInt (text : Text) : Bool :=
  let body := unsigned text
  let isOctal := fun (c : Char) => '0' ≤ c && c ≤ '7'
  let isBinary := fun (c : Char) => c == '0' || c == '1'
  let plain := match body with
    | '0' :: 'b' :: rest => isRun (isSpacedDigit isBinary) rest
    | '0' :: 'x' :: rest => isRun (isSpacedDigit isHexDigit) rest
    -- A zero in front marks an octal number, unless it stands alone.
    | ['0'] => true
    | '0' :: rest => isRun (isSpacedDigit isOctal) rest
    | body => isDigits isPositiveDigit body
  plain ||
    -- Digits of sixtieths, with colons between them, are a whole number too.
    match Text.splitOn ':' body with
    | first :: second :: rest => isDigits isPositiveDigit first && (second :: rest).all isSixtieth
    | _ => false

/-- An exponent with its sign, or nothing. -/
def isExponent : Text → Bool
  | [] => true
  | 'e' :: sign :: rest => (sign == '+' || sign == '-') && isRun Char.isDigit rest
  | 'E' :: sign :: rest => (sign == '+' || sign == '-') && isRun Char.isDigit rest
  | _ => false

/-- Digits, a point, digits and perhaps an exponent. -/
def isFraction (first : Char → Bool) (text : Text) : Bool :=
  -- An underscore may stand among the digits on both sides of the point.
  let whole := text.takeWhile (isSpacedDigit Char.isDigit)
  match text.drop whole.length with
  | '.' :: rest =>
    let digits := rest.takeWhile (isSpacedDigit Char.isDigit)
    isDigits first whole && isExponent (rest.drop digits.length)
  | _ => false

/-- Whether a plain scalar is a floating-point number. -/
def isFloat (text : Text) : Bool :=
  let body := unsigned text
  let sixtieths := match Text.splitOn '.' body with
    | [front, fraction] =>
      (match Text.splitOn ':' front with
        | first :: second :: rest => isDigits Char.isDigit first && (second :: rest).all isSixtieth
        | _ => false) && fraction.all (isSpacedDigit Char.isDigit)
    | _ => false
  -- A number that starts with its point has no sign.
  let pointFirst := match text with
    | '.' :: c :: rest =>
      let digits := rest.takeWhile (isSpacedDigit Char.isDigit)
      c.isDigit && isExponent (rest.drop digits.length)
    | _ => false
  isFraction Char.isDigit body || pointFirst || sixtieths ||
    [".inf", ".Inf", ".INF"].contains (String.ofList body) ||
    -- What is no number has no sign either.
    [".nan", ".NaN", ".NAN"].contains (String.ofList text)

/-- The parts of a moment as written. -/
structure Stamp where
  year : Text
  month : Text
  day : Text
  time : Option (Text × Text × Text) := none
  fraction : Text := []
  zone : Option (Bool × Text × Text) := none

/-- One or two digits in front, and the rest. -/
def takeShort (text : Text) : Option (Text × Text) :=
  let digits := (text.take 2).takeWhile Char.isDigit
  if digits.isEmpty then none else some (digits, text.drop digits.length)

/-- Some digits in front, and the rest. -/
def takeDigits (count : Nat) (text : Text) : Option (Text × Text) :=
  if (text.take count).length == count && (text.take count).all Char.isDigit then
    some (text.take count, text.drop count)
  else none

/-- The distance from universal time at the end of a moment: its sign, its hours and its minutes. -/
def readZone (text : Text) : Option (Option (Bool × Text × Text)) :=
  match text.dropWhile isInlineBlank with
  | [] => if text.isEmpty then some none else none
  | ['Z'] => some (some (false, ['0'], ['0']))
  | sign :: rest =>
    if sign == '+' || sign == '-' then do
      let (hour, rest) ← takeShort rest
      match rest with
      | [] => return some (sign == '-', hour, ['0'])
      -- Minutes have two digits, hours one or two.
      | ':' :: rest =>
        let (minute, rest) ← takeDigits 2 rest
        if rest.isEmpty then return some (sign == '-', hour, minute) else none
      | _ => none
    else none

/-- The time of day behind a day. -/
def readTime (stamp : Stamp) (text : Text) : Option Stamp := do
  let rest ← match text with
    -- One letter or some blanks stand between day and time.
    | 'T' :: rest => some rest
    | 't' :: rest => some rest
    | c :: rest => if isInlineBlank c then some (rest.dropWhile isInlineBlank) else none
    | [] => none
  let (hour, rest) ← takeShort rest
  let rest ← Text.after? [':'] rest
  let (minute, rest) ← takeDigits 2 rest
  let rest ← Text.after? [':'] rest
  let (second, rest) ← takeDigits 2 rest
  let (fraction, rest) := match rest with
    | '.' :: rest => (rest.takeWhile Char.isDigit, rest.dropWhile Char.isDigit)
    | rest => ([], rest)
  let zone ← readZone rest
  return { stamp with time := some (hour, minute, second), fraction, zone }

/-- The parts of a day or a moment; a day alone has two digits for month and day. -/
def readStamp (text : Text) : Option Stamp := do
  let (year, rest) ← takeDigits 4 text
  let rest ← Text.after? ['-'] rest
  let (month, rest) ← takeShort rest
  let rest ← Text.after? ['-'] rest
  let (day, rest) ← takeShort rest
  if rest.isEmpty then
    if month.length == 2 && day.length == 2 then return { year, month, day } else none
  else readTime { year, month, day } rest

/-- The words for truth values. -/
def truthWords : List (String × Bool) :=
  [("yes", true), ("no", false), ("true", true), ("false", false), ("on", true), ("off", false)]

/-- A word in the three ways of writing it: small, with a capital, and in capitals. -/
def spellings (word : String) : List String :=
  match word.toList with
  | [] => [word]
  | c :: rest =>
    [word, String.ofList (c.toUpper :: rest), String.ofList (word.toList.map Char.toUpper)]

/-- The tag that a plain scalar has by its looks. -/
def impliedTag (text : Text) : String :=
  let word := String.ofList text
  -- The kinds are tried in this order: the first that fits is the tag.
  if truthWords.any fun (known, _) => (spellings known).contains word then Tag.bool
  else if isFloat text then Tag.float
  else if isInt text then Tag.int
  else if word == "<<" then Tag.merge
  else if word == "" || word == "~" || (spellings "null").contains word then Tag.null
  else if (readStamp text).isSome then Tag.timestamp
  else if word == "=" then Tag.value
  else Tag.str

/-- The message about a text that is no whole number. -/
def noInt (base : Nat) (text : Text) : Fault :=
  .badValue s!"invalid literal for int() with base {base}: {quote (String.ofList text)}"

/-- The whole number that a text writes in a base. A decimal one may not have too many digits. -/
def intOf (base : Nat) (text : Text) : Except Fault Int :=
  -- The conversion takes white space around the digits and a second sign in front of them.
  let trimmed := Text.trim text
  let body := unsigned trimmed
  if !isRun (fun c => isHexDigit c && hexValue c < base) body then .error (noInt base text)
  else if base == 10 && maxIntegerDigits < body.length then
    .error (.badValue (longIntegerMessage body.length))
  else
    let n : Int := numberOf base body
    .ok (if trimmed.head? == some '-' then -n else n)

/-- The value of digits of sixtieths, the highest first. -/
def sexagesimal (digits : List Int) : Int := digits.foldl (fun n digit => 60 * n + digit) 0

/-- The value of a whole number. -/
def readInt (text : Text) : Except Fault Document := do
  -- Underscores only separate digits.
  let bare := text.filter (· != '_')
  if bare.isEmpty then throw .emptyNumber
  let sign : Int := if bare.head? == some '-' then -1 else 1
  let n ← match unsigned bare with
    | ['0'] => pure 0
    | '0' :: 'b' :: rest => intOf 2 rest
    | '0' :: 'x' :: rest => intOf 16 rest
    -- The zero in front is a digit of the octal number.
    | '0' :: rest => intOf 8 ('0' :: rest)
    | [] => throw .emptyNumber
    | body =>
      if body.contains ':' then do
        let digits ← (Text.splitOn ':' body).mapM (intOf 10)
        pure (sexagesimal digits)
      else intOf 10 body
  return .int (sign * n)

/-- The message about a text that is no floating-point number. -/
def noFloat (text : Text) : Fault :=
  .badValue s!"could not convert string to float: {quote (String.ofList text)}"

/-- The number that a decimal text writes. -/
def realOf (text : Text) : Except Fault Binary64 :=
  let trimmed := Text.trim text
  let body := unsigned trimmed
  let negative := trimmed.head? == some '-'
  let whole := body.takeWhile Char.isDigit
  let rest := body.drop whole.length
  let (fraction, rest) := match rest with
    | '.' :: rest => (rest.takeWhile Char.isDigit, rest.dropWhile Char.isDigit)
    | rest => ([], rest)
  let exponent : Option Int := match rest with
    | [] => some 0
    | 'e' :: rest =>
      let digits := unsigned rest
      if isRun Char.isDigit digits then
        some ((if rest.head? == some '-' then -1 else 1) * (numberOf 10 digits : Int))
      else none
    | _ => none
  -- A number needs a digit before or behind its point.
  match exponent, (whole ++ fraction).isEmpty with
  | some exponent, false =>
    .ok (.ofDecimal negative (numberOf 10 (whole ++ fraction)) (exponent - fraction.length))
  | _, _ =>
    if ["inf", "infinity"].contains (String.ofList body) then .ok (.infinite negative)
    else if String.ofList body == "nan" then .ok .nan
    else .error (noFloat text)

/-- The sum of two numbers, rounded. -/
def addReal (x y : Binary64) : Binary64 := x.sub (y.mul (.ofInt (-1)))

/-- The value of sixtieths, the lowest first, each worth `base`. -/
def sexagesimalReal (base : Int) : List Binary64 → Binary64 → Binary64
  | [], sum => sum
  | digit :: rest, sum => sexagesimalReal (60 * base) rest (addReal sum (digit.mul (.ofInt base)))

/-- The value of a floating-point number. -/
def readFloat (text : Text) : Except Fault Document := do
  let bare := (text.filter (· != '_')).map Char.toLower
  if bare.isEmpty then throw .emptyNumber
  let sign : Binary64 := .ofInt (if bare.head? == some '-' then -1 else 1)
  let body := unsigned bare
  let x ←
    if body == ".inf".toList then pure (.infinite false)
    else if body == ".nan".toList then pure .nan
    else if body.contains ':' then do
      let digits ← (Text.splitOn ':' body).mapM realOf
      -- The lowest sixtieth is worth one, so the digits are taken from the back.
      pure (sexagesimalReal 1 digits.reverse (.zero false))
    else realOf body
  return .real (sign.mul x)

/-- Whether a year has a day more. -/
def isLeapYear (year : Nat) : Bool := year % 4 == 0 && (year % 100 != 0 || year % 400 == 0)

/-- The number of days of a month. -/
def daysOf (year month : Nat) : Nat :=
  if month == 2 then if isLeapYear year then 29 else 28
  else if [4, 6, 9, 11].contains month then 30
  else 31

/-- Refuse a day that no calendar has. -/
def checkDay (year month day : Nat) : Except Fault Unit :=
  if year == 0 then .error (.badValue "year 0 is out of range")
  else if month == 0 || 12 < month then .error (.badValue "month must be in 1..12")
  else if day == 0 || daysOf year month < day then
    .error (.badValue "day is out of range for month")
  else .ok ()

/-- Refuse a time that no clock shows. -/
def checkTime (hour minute second : Nat) : Except Fault Unit :=
  if 23 < hour then .error (.badValue "hour must be in 0..23")
  else if 59 < minute then .error (.badValue "minute must be in 0..59")
  else if 59 < second then .error (.badValue "second must be in 0..59")
  else .ok ()

/-- The distance from universal time in seconds, which is less than a day. -/
def zoneOf (negative : Bool) (hour minute : Text) : Except Fault Int :=
  let seconds : Int := 3600 * numberOf 10 hour + 60 * numberOf 10 minute
  let seconds := if negative then -seconds else seconds
  if seconds.natAbs < 86400 then .ok seconds
  else .error (.badValue ("offset must be a timedelta strictly between -timedelta(hours=24) and " ++
    s!"timedelta(hours=24), not {Moment.durationName seconds}"))

/-- The value of a day or a moment. -/
def readTimestamp (text : Text) : Except Fault Document :=
  match readStamp text with
  | none => .error .malformed
  | some stamp =>
    let year := numberOf 10 stamp.year
    let month := numberOf 10 stamp.month
    let day := numberOf 10 stamp.day
    match stamp.time with
    | none => do
      checkDay year month day
      return .date year month day
    | some (hour, minute, second) => do
      -- The zone is looked at before the day and the time.
      let zone ← match stamp.zone with
        | none => pure none
        | some (negative, hour, minute) => some <$> zoneOf negative hour minute
      let hour := numberOf 10 hour
      let minute := numberOf 10 minute
      let second := numberOf 10 second
      checkDay year month day
      checkTime hour minute second
      -- The fraction is cut or filled up to six digits.
      let micro := numberOf 10 ((stamp.fraction ++ "000000".toList).take 6)
      return .moment { year, month, day, hour, minute, second, micro, zone }

/-- The value of a truth word. -/
def readBool (text : Text) : Except Fault Document :=
  let word := String.ofList (text.map Char.toLower)
  match truthWords.find? fun (known, _) => known == word with
  | some (_, value) => .ok (.bool value)
  | none => .error (.unknownTruth word)

/-- The value of a scalar with a tag. -/
def scalarValue (tag : String) (text : Text) : Except Fault Document :=
  if tag == Tag.null then .ok .null
  else if tag == Tag.bool then readBool text
  else if tag == Tag.int then readInt text
  else if tag == Tag.float then readFloat text
  else if tag == Tag.timestamp then readTimestamp text
  else if tag == Tag.str then .ok (.text (String.ofList text))
  -- Bytes, sets and values of other kinds are not read here.
  else .error .malformed

end ImportOrder.Yaml
