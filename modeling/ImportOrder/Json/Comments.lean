import ImportOrder.Text.Basic

/-! JSON with comments and trailing commas, turned into plain JSON. -/

namespace ImportOrder.Json

/-- A string literal behind its opening quote, split where it ends: its characters with the closing
quote, and the rest. An escaped character never ends it, and the end of the text does. -/
def splitString : Text → Text × Text
  | [] => ([], [])
  | '"' :: rest => (['"'], rest)
  | ['\\'] => (['\\'], [])
  | '\\' :: c :: rest =>
    let (body, after) := splitString rest
    ('\\' :: c :: body, after)
  | c :: rest =>
    let (body, after) := splitString rest
    (c :: body, after)

/-- The rest of a text behind a line comment, from the line break on. -/
def skipLine (text : Text) : Text := text.dropWhile fun c => c != '\r' && c != '\n'

/-- The rest of a text behind the end of a block comment. -/
def skipBlock : Text → Text
  | [] => []
  | '*' :: '/' :: rest => rest
  | _ :: rest => skipBlock rest

/-- What is left behind a string literal is no longer than what was there before. -/
theorem splitString_snd_length (text : Text) : (splitString text).2.length ≤ text.length := by
  -- Every case gives up at least the characters that it looks at.
  fun_induction splitString text <;> simp_all <;> omega

/-- A line comment gives up characters and never adds any. -/
theorem skipLine_length (text : Text) : (skipLine text).length ≤ text.length :=
  List.Sublist.length_le (List.dropWhile_sublist _)

/-- A block comment gives up characters and never adds any. -/
theorem skipBlock_length (text : Text) : (skipBlock text).length ≤ text.length := by
  -- Each step drops one character, and the last one drops two.
  fun_induction skipBlock text <;> simp_all <;> omega

/-- A text without its comments; string literals are left as they are. -/
def dropComments : Text → Text
  | [] => []
  | '"' :: rest => '"' :: (splitString rest).1 ++ dropComments (splitString rest).2
  | '/' :: '/' :: rest => dropComments (skipLine rest)
  | '/' :: '*' :: rest => dropComments (skipBlock rest)
  | c :: rest => c :: dropComments rest
termination_by text => text.length
decreasing_by
  all_goals simp_wf
  · have := splitString_snd_length rest; omega
  · have := skipLine_length rest; omega
  · have := skipBlock_length rest; omega

/-- Whether the next character that is not blank closes a list or an object. -/
def closes (text : Text) : Bool :=
  match text.dropWhile isBlank with
  | c :: _ => c == '}' || c == ']'
  | [] => false

/-- A text without the commas that stand in front of a closing bracket. -/
def dropCommas : Text → Text
  | [] => []
  | '"' :: rest => '"' :: (splitString rest).1 ++ dropCommas (splitString rest).2
  -- Each comma is judged by what follows it, so of several in a row only the last one goes.
  | ',' :: rest => if closes rest then dropCommas rest else ',' :: dropCommas rest
  | c :: rest => c :: dropCommas rest
termination_by text => text.length
decreasing_by
  all_goals simp_wf
  · have := splitString_snd_length rest; omega

/-- Plain JSON: comments go first, then the commas that they may have hidden. -/
def strip (text : Text) : Text := dropCommas (dropComments text)

end ImportOrder.Json
