import ImportOrder.Text.Basic
import ImportOrder.Text.Printable

/-! Texts as messages show them: between quotes, with the hidden characters spelled out. -/

namespace ImportOrder

/-- A number as lower-case hexadecimal digits, with zeros in front up to a width. -/
def hexDigits (width n : Nat) : Text :=
  let digits := Nat.toDigits 16 n
  List.replicate (width - digits.length) '0' ++ digits

namespace Quoted

/-- Double quotes are taken only for a text that holds an apostrophe and no double quote. -/
def mark (text : Text) : Char :=
  if text.contains '\'' && !text.contains '"' then '"' else '\''

/-- A character between two quote marks. -/
def escape (quote c : Char) : Text :=
  if c == quote || c == '\\' then ['\\', c]
  else if c == '\n' then ['\\', 'n']
  else if c == '\r' then ['\\', 'r']
  else if c == '\t' then ['\\', 't']
  else if isPrintable c then [c]
  else if c.toNat < 0x100 then '\\' :: 'x' :: hexDigits 2 c.toNat
  else if c.toNat < 0x10000 then '\\' :: 'u' :: hexDigits 4 c.toNat
  else '\\' :: 'U' :: hexDigits 8 c.toNat

end Quoted

/-- A text between quotes. -/
def quoted (text : Text) : Text :=
  let quote := Quoted.mark text
  quote :: text.flatMap (Quoted.escape quote) ++ [quote]

/-- A string between quotes. -/
def quote (s : String) : String := String.ofList (quoted s.toList)

end ImportOrder
