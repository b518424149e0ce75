/-! Digits of every script, with their values. -/

namespace ImportOrder

/-- The zeros of the scripts that write decimal numbers; the other nine digits follow each of them.
-/
def decimalZeros : List Nat :=
  [0x30, 0x660, 0x6F0, 0x7C0, 0x966, 0x9E6, 0xA66, 0xAE6, 0xB66, 0xBE6, 0xC66, 0xCE6, 0xD66, 0xDE6,
    0xE50, 0xED0, 0xF20, 0x1040, 0x1090, 0x17E0, 0x1810, 0x1946, 0x19D0, 0x1A80, 0x1A90, 0x1B50,
    0x1BB0, 0x1C40, 0x1C50, 0xA620, 0xA8D0, 0xA900, 0xA9D0, 0xA9F0, 0xAA50, 0xABF0, 0xFF10, 0x104A0,
    0x10D30, 0x11066, 0x110F0, 0x11136, 0x111D0, 0x112F0, 0x11450, 0x114D0, 0x11650, 0x116C0,
    0x11730, 0x118E0, 0x11950, 0x11C50, 0x11D50, 0x11DA0, 0x16A60, 0x16AC0, 0x16B50, 0x1D7CE,
    0x1D7D8, 0x1D7E2, 0x1D7EC, 0x1D7F6, 0x1E140, 0x1E2F0, 0x1E950, 0x1FBF0]

/-- The longest whole number that is read or written, in digits. -/
def maxIntegerDigits : Nat := 4300

/-- The message about a whole number with too many digits, with what is known of them. -/
def longNumberMessage (known : String) : String :=
  s!"Exceeds the limit ({maxIntegerDigits} digits) for integer string conversion{known}; " ++
    "use sys.set_int_max_str_digits() to increase the limit"

/-- The message about a whole number with too many digits to be read. -/
def longIntegerMessage (digits : Nat) : String :=
  longNumberMessage s!": value has {digits} digits"

/-- The value of a decimal digit. -/
def decimalValue? (c : Char) : Option Nat :=
  (decimalZeros.find? fun first => first ≤ c.toNat && c.toNat < first + 10).map (c.toNat - ·)

/-- Runs of digits that write no decimal numbers (raised, lowered, circled): first, its value,
length. -/
def loneDigitRuns : List (Nat × Nat × Nat) :=
  [(0xB2, 2, 2), (0xB9, 1, 1), (0x1369, 1, 9), (0x19DA, 1, 1), (0x2070, 0, 1), (0x2074, 4, 6),
    (0x2080, 0, 10), (0x2460, 1, 9), (0x2474, 1, 9), (0x2488, 1, 9), (0x24EA, 0, 1), (0x24F5, 1, 9),
    (0x24FF, 0, 1), (0x2776, 1, 9), (0x2780, 1, 9), (0x278A, 1, 9), (0x10A40, 1, 4),
    (0x10E60, 1, 9), (0x11052, 1, 9), (0x1F100, 0, 1), (0x1F101, 0, 10)]

/-- The value of a digit that stands for a number on its own. -/
def loneDigitValue? (c : Char) : Option Nat :=
  (loneDigitRuns.find? fun (first, _, length) => first ≤ c.toNat && c.toNat < first + length).map
    fun (first, value, _) => value + (c.toNat - first)

end ImportOrder
