import ImportOrder.Text.Digits
import ImportOrder.Text.Decomposition

/-! Natural order: texts compare by their letters, and the numbers in them by their values. A number
may have any count of digits here. -/

namespace ImportOrder

/-- A key of natural order: stretches of text, each with the number that follows it if one does. -/
abbrev NaturalKey := List (Text × Option Nat)

namespace NaturalKey

/-- The value of the decimal digits that a text starts with, added to those read before, and the
rest. -/
def readNumber (n : Nat) : Text → Nat × Text
  | [] => (n, [])
  | c :: rest =>
    match decimalValue? c with
    | some digit => readNumber (10 * n + digit) rest
    | none => (n, c :: rest)

/-- Reading a number takes characters and adds none. -/
theorem readNumber_length (n : Nat) (text : Text) : (readNumber n text).2.length ≤ text.length := by
  -- Each step either stops or drops one digit.
  induction text generalizing n with
  | nil => simp [readNumber]
  | cons c rest ih =>
    simp only [readNumber]
    split
    · exact Nat.le_trans (ih _) (by simp)
    · simp

/-- The key of a decomposed text, where `stretch` holds the characters read since the last number. A
run of decimal digits is one number, and a digit of another kind is a number on its own. -/
def split (stretch : Text) : Text → NaturalKey
  | [] => if stretch.isEmpty then [] else [(stretch, none)]
  | c :: rest =>
    match decimalValue? c with
    | some digit =>
      (stretch, some (readNumber digit rest).1) :: split [] (readNumber digit rest).2
    -- A digit that no decimal number is written with still has a value.
    | none =>
      match loneDigitValue? c with
      | some digit => (stretch, some digit) :: split [] rest
      | none => split (stretch ++ [c]) rest
termination_by text => text.length
decreasing_by
  · have := readNumber_length digit rest; simp; omega
  · simp
  · simp

/-- The key of a text. -/
def ofText (text : Text) : NaturalKey := split [] (Decomposition.ofText text)

/-- Compare texts by their characters, a text in front of its extensions. -/
def compareText : Text → Text → Ordering
  | [], [] => .eq
  | [], _ :: _ => .lt
  | _ :: _, [] => .gt
  | a :: left, b :: right =>
    -- Code points are compared, whatever the letters mean.
    if a.toNat < b.toNat then .lt
    else if b.toNat < a.toNat then .gt
    else compareText left right

/-- Compare numbers, no number in front of every number. -/
def compareNumber : Option Nat → Option Nat → Ordering
  | none, none => .eq
  | none, some _ => .lt
  | some _, none => .gt
  | some a, some b => if a < b then .lt else if b < a then .gt else .eq

/-- Compare keys stretch by stretch, a key in front of its extensions. -/
def compareKeys : NaturalKey → NaturalKey → Ordering
  | [], [] => .eq
  | [], _ :: _ => .lt
  | _ :: _, [] => .gt
  | (a, m) :: left, (b, n) :: right =>
    match compareText a b with
    | .eq =>
      match compareNumber m n with
      | .eq => compareKeys left right
      | other => other
    | other => other

/-- Whether a key does not come behind another. -/
def le (a b : NaturalKey) : Bool := compareKeys a b != .gt

end NaturalKey

/-- The key of a module name in natural order. -/
def naturalKey (name : String) : NaturalKey := NaturalKey.ofText name.toList

end ImportOrder
