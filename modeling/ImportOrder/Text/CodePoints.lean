/-! Tables of code points, written as hexadecimal ranges in a text. -/

namespace ImportOrder.CodePoints

/-- The value of a hexadecimal digit in upper case. -/
def hexDigit (c : Char) : Nat :=
  if c.isDigit then c.toNat - '0'.toNat else c.toNat - 'A'.toNat + 10

/-- The number written by upper-case hexadecimal digits. -/
def hex (digits : String) : Nat := digits.foldl (fun n c => 16 * n + hexDigit c) 0

/-- The range `A-B`, or `A` for one code point. -/
def range (item : String) : Nat × Nat :=
  match item.splitOn "-" with
  | [first, last] => (hex first, hex last)
  | _ => (hex item, hex item)

/-- The items of a table, which stand between the spaces of its lines. -/
def items (lines : List String) : List String := lines.flatMap fun line => line.splitOn " "

/-- The ranges of a table, in ascending order. -/
def ranges (lines : List String) : Array (Nat × Nat) := ((items lines).map range).toArray

/-- Search ascending ranges, between the indices `low` and `high`, for the one that holds a number.
-/
def searchFrom (table : Array (Nat × Nat)) (n : Nat) : (fuel low high : Nat) → Bool
  | 0, _, _ => false
  | fuel + 1, low, high =>
    if low < high then
      let middle := (low + high) / 2
      match table[middle]? with
      | none => false
      | some (first, last) =>
        if n < first then searchFrom table n fuel low middle
        else if last < n then searchFrom table n fuel (middle + 1) high
        else true
    else false

/-- Whether a number lies in one of the ascending ranges of a table. -/
def holds (table : Array (Nat × Nat)) (n : Nat) : Bool :=
  searchFrom table n (table.size + 1) 0 table.size

end ImportOrder.CodePoints
