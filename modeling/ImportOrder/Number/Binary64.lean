/-! Floating-point numbers of 64 bits, computed exactly, and their shortest decimal text. -/

namespace ImportOrder

/-- A floating-point number; a finite one is its mantissa times two to its exponent. -/
inductive Binary64
  | finite (negative : Bool) (mantissa : Nat) (exponent : Int)
  | infinite (negative : Bool)
  | nan
deriving DecidableEq, Repr

namespace Binary64

/-- The least exponent, that of the numbers next to zero. -/
def minExponent : Int := -1074

/-- The greatest exponent of a finite number. -/
def maxExponent : Int := 971

/-- Zero with a sign. -/
def zero (negative : Bool) : Binary64 := .finite negative 0 minExponent

instance : Inhabited Binary64 := ⟨zero false⟩

/-- A quotient divided by the power of a base, as numerator and denominator. -/
def scale (base num den : Nat) (exponent : Int) : Nat × Nat :=
  if 0 ≤ exponent then (num, den * Nat.pow base exponent.toNat)
  else (num * Nat.pow base (-exponent).toNat, den)

/-- The quotient rounded to the nearest whole number, a tie to the even one. -/
def roundHalfEven (num den : Nat) : Nat :=
  let floor := num / den
  let twice := 2 * (num % den)
  if twice < den then floor
  else if den < twice then floor + 1
  else if floor % 2 == 0 then floor else floor + 1

/-- The exponent that leaves 53 binary digits of a quotient, but not below the least one. -/
def exponentFor (num den : Nat) : Int :=
  let guess : Int := (num.log2 : Int) - (den.log2 : Int) - 52
  let (top, bottom) := scale 2 num den guess
  -- The difference of the lengths is off by one at most.
  let exact := if top / bottom < Nat.pow 2 52 then guess - 1 else guess
  max exact minExponent

/-- The number nearest to a quotient. -/
def ofRatio (negative : Bool) (num den : Nat) : Binary64 :=
  if num == 0 then zero negative
  else
    let exponent := exponentFor num den
    let (top, bottom) := scale 2 num den exponent
    let mantissa := roundHalfEven top bottom
    -- Rounding up may reach the next power of two, which has one digit less to the left.
    let (mantissa, exponent) :=
      if mantissa == Nat.pow 2 53 then (Nat.pow 2 52, exponent + 1) else (mantissa, exponent)
    if maxExponent < exponent then .infinite negative else .finite negative mantissa exponent

/-- The number nearest to `digits` times ten to the power `exponent`. -/
def ofDecimal (negative : Bool) (digits : Nat) (exponent : Int) : Binary64 :=
  let size : Int := (Nat.toDigits 10 digits).length
  if digits == 0 then zero negative
  -- Far beyond both ends of the range the power of ten need not be computed.
  else if 400 < exponent + size then .infinite negative
  else if exponent + size < -400 then zero negative
  else if 0 ≤ exponent then ofRatio negative (digits * Nat.pow 10 exponent.toNat) 1
  else ofRatio negative digits (Nat.pow 10 (-exponent).toNat)

/-- The number nearest to a whole number. -/
def ofInt (n : Int) : Binary64 := ofRatio (n < 0) n.natAbs 1

/-- A finite number as a signed whole number times two to an exponent. -/
def signed (negative : Bool) (mantissa : Nat) : Int :=
  if negative then -(mantissa : Int) else mantissa

/-- A signed whole number times two to an exponent, rounded. -/
def ofScaled (n : Int) (exponent : Int) : Binary64 :=
  -- Rounding takes quotients, so a negative power goes below the line.
  if 0 ≤ exponent then ofRatio (n < 0) (n.natAbs * Nat.pow 2 exponent.toNat) 1
  else ofRatio (n < 0) n.natAbs (Nat.pow 2 (-exponent).toNat)

/-- The difference of two numbers, rounded. -/
def sub : Binary64 → Binary64 → Binary64
  | .finite s m e, .finite t n f =>
    -- With the smaller exponent both are whole numbers, and nothing is lost.
    let low := min e f
    let left := signed s m * Nat.pow 2 (e - low).toNat
    let right := signed t n * Nat.pow 2 (f - low).toNat
    ofScaled (left - right) low
  | .infinite s, .infinite t => if s == t then .nan else .infinite s
  | .infinite s, .finite .. => .infinite s
  | .finite .., .infinite t => .infinite (!t)
  | _, _ => .nan

/-- The product of two numbers, rounded. -/
def mul : Binary64 → Binary64 → Binary64
  | .finite s m e, .finite t n f =>
    -- A zero keeps the sign of the product.
    if m == 0 || n == 0 then zero (s != t)
    else ofScaled (signed s m * signed t n) (e + f)
  | .infinite s, .infinite t => .infinite (s != t)
  | .infinite s, .finite t n _ => if n == 0 then .nan else .infinite (s != t)
  | .finite s m _, .infinite t => if m == 0 then .nan else .infinite (s != t)
  | _, _ => .nan

/-- The whole part of a finite number. -/
def truncate? : Binary64 → Option Int
  | .finite negative mantissa exponent =>
    some (signed negative
      (if 0 ≤ exponent then mantissa * Nat.pow 2 exponent.toNat
        else mantissa / Nat.pow 2 (-exponent).toNat))
  | _ => none

/-- Whether a number equals a whole number. -/
def equalsInt (x : Binary64) (n : Int) : Bool :=
  match x with
  | .finite negative mantissa exponent =>
    if 0 ≤ exponent then signed negative (mantissa * Nat.pow 2 exponent.toNat) == n
    else signed negative mantissa == n * Nat.pow 2 (-exponent).toNat
  | _ => false

/-- Whether two numbers are equal as numbers: the two zeros are, and no nan is. -/
def equals : Binary64 → Binary64 → Bool
  | .finite s m e, .finite t n f =>
    -- The same number can have several mantissas, so both are brought to one exponent.
    let low := min e f
    signed s m * Nat.pow 2 (e - low).toNat == signed t n * Nat.pow 2 (f - low).toNat
  | .infinite s, .infinite t => s == t
  | _, _ => false

/-- Whether a number is one of the two zeros. -/
def isZero : Binary64 → Bool
  | .finite _ 0 _ => true
  | _ => false

/-- The place of the decimal point: the number lies between ten to the power `point - 1` and
`point`. -/
def pointFrom (num den : Nat) : (fuel : Nat) → (guess : Int) → Int
  | 0, guess => guess
  | fuel + 1, guess =>
    -- Compare the quotient with ten to the power `guess`.
    let (top, bottom) := scale 10 num den guess
    if bottom ≤ top then pointFrom num den fuel (guess + 1)
    else if top * 10 < bottom then pointFrom num den fuel (guess - 1)
    else guess

/-- The first guess of the decimal point: thirty hundredths of a decimal digit to a binary one. -/
def pointOf (num den : Nat) : Int :=
  pointFrom num den 40 (((num.log2 : Int) - (den.log2 : Int)) * 30103 / 100000)

/-- The shortest digits, at least `width` of them, that read back as the number, with their
exponent. -/
def shortestFrom (x : Binary64) (num den : Nat) (point : Int) : (fuel width : Nat) → Nat × Int
  | 0, _ => (0, 0)
  | fuel + 1, width =>
    let exponent := point - width
    let (top, bottom) := scale 10 num den exponent
    let floor := top / bottom
    let reads := fun digits => ofDecimal false digits exponent == x
    let low := reads floor
    let high := reads (floor + 1)
    -- Of two neighbours that read back the nearer one is taken.
    if low && (!high || 2 * (top % bottom) ≤ bottom) then (floor, exponent)
    else if high then (floor + 1, exponent)
    else shortestFrom x num den point fuel (width + 1)

/-- Decimal digits without the zeros that end them, and the exponent that makes up for these. -/
def dropZeros : (fuel : Nat) → Nat → Int → Nat × Int
  | 0, digits, exponent => (digits, exponent)
  | fuel + 1, digits, exponent =>
    if digits != 0 && digits % 10 == 0 then dropZeros fuel (digits / 10) (exponent + 1)
    else (digits, exponent)

/-- The digits of a positive number and the place of the point in front of or behind them. -/
def decimal (mantissa : Nat) (exponent : Int) : List Char × Int :=
  let (num, den) := scale 2 mantissa 1 (-exponent)
  let x := Binary64.finite false mantissa exponent
  -- Seventeen digits are enough for every number.
  let (digits, exponent) := shortestFrom x num den (pointOf num den) 17 1
  let (digits, exponent) := dropZeros 20 digits exponent
  let text := Nat.toDigits 10 digits
  (text, text.length + exponent)

/-- The text of digits with a point: positional from 0.0001 up to 16 places, with an exponent of at
least two digits otherwise. -/
def layout (digits : List Char) (point : Int) : List Char :=
  if -4 < point ∧ point ≤ 16 then
    if point ≤ 0 then '0' :: '.' :: List.replicate (-point).toNat '0' ++ digits
    else if digits.length ≤ point.toNat then
      digits ++ List.replicate (point.toNat - digits.length) '0' ++ ['.', '0']
    else digits.take point.toNat ++ '.' :: digits.drop point.toNat
  else
    let power := point - 1
    let size := Nat.toDigits 10 power.natAbs
    let size := if size.length < 2 then '0' :: size else size
    let head := if digits.length ≤ 1 then digits else digits.take 1 ++ '.' :: digits.drop 1
    head ++ 'e' :: (if power < 0 then '-' else '+') :: size

/-- The shortest decimal text that reads back as the number. -/
def toText : Binary64 → String
  | .nan => "nan"
  | .infinite negative => if negative then "-inf" else "inf"
  | .finite negative mantissa exponent =>
    let body :=
      if mantissa == 0 then ['0', '.', '0']
      else let (digits, point) := decimal mantissa exponent; layout digits point
    String.ofList (if negative then '-' :: body else body)

end Binary64

end ImportOrder
