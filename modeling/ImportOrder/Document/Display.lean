import ImportOrder.Text.Quoted
import ImportOrder.Document.Basic

/-! Documents as messages show them. -/

namespace ImportOrder

/-- A number with zeros in front up to a width. -/
def padded (width n : Nat) : String :=
  let digits := Nat.toDigits 10 n
  String.ofList (List.replicate (width - digits.length) '0' ++ digits)

namespace Moment

/-- The arguments that describe a moment; seconds and their fractions only as far as they are not
zero. -/
def arguments (m : Moment) : List Nat :=
  let fixed := [m.year, m.month, m.day, m.hour, m.minute]
  if m.micro != 0 then fixed ++ [m.second, m.micro]
  else if m.second != 0 then fixed ++ [m.second]
  else fixed

/-- A duration in seconds, shown in whole days and the seconds of a day. -/
def durationName (seconds : Int) : String :=
  let days := Int.fdiv seconds 86400
  let rest := Int.fmod seconds 86400
  let parts := (if days == 0 then [] else [s!"days={days}"]) ++
    (if rest == 0 then [] else [s!"seconds={rest}"])
  "datetime.timedelta(" ++ (if seconds == 0 then "0" else ", ".intercalate parts) ++ ")"

/-- The distance from universal time. -/
def zoneName (seconds : Int) : String :=
  if seconds == 0 then "datetime.timezone.utc" else s!"datetime.timezone({durationName seconds})"

/-- A moment as a message shows it inside another value. -/
def display (m : Moment) : String :=
  let zone := match m.zone with
    | none => []
    | some seconds => ["tzinfo=" ++ zoneName seconds]
  "datetime.datetime(" ++ ", ".intercalate (m.arguments.map toString ++ zone) ++ ")"

/-- A moment as plain text. -/
def plain (m : Moment) : String :=
  let day := s!"{padded 4 m.year}-{padded 2 m.month}-{padded 2 m.day}"
  let time := s!"{padded 2 m.hour}:{padded 2 m.minute}:{padded 2 m.second}"
  let fraction := if m.micro == 0 then "" else "." ++ padded 6 m.micro
  let zone := match m.zone with
    | none => ""
    | some seconds =>
      let away := seconds.natAbs
      (if seconds < 0 then "-" else "+") ++ padded 2 (away / 3600) ++ ":" ++
        padded 2 (away % 3600 / 60)
  day ++ " " ++ time ++ fraction ++ zone

end Moment

namespace Document

mutual

/-- A document as a message shows it. -/
def display : Document → String
  | .null => "None"
  | .bool value => if value then "True" else "False"
  | .int value => toString value
  | .real value => value.toText
  | .text value => quote value
  | .date year month day => s!"datetime.date({year}, {month}, {day})"
  | .moment value => value.display
  | .pair first second => "(" ++ display first ++ ", " ++ display second ++ ")"
  | .list items => "[" ++ ", ".intercalate (displayItems items) ++ "]"
  | .mapping entries => "\x7b" ++ ", ".intercalate (displayEntries entries) ++ "\x7d"

/-- Each item of a list as a message shows it. -/
def displayItems : List Document → List String
  | [] => []
  | item :: rest => display item :: displayItems rest

/-- Each entry of a mapping as a message shows it. -/
def displayEntries : List (Document × Document) → List String
  | [] => []
  | (key, value) :: rest => (display key ++ ": " ++ display value) :: displayEntries rest

end

/-- A document as plain text: a text is itself, everything else as a message shows it. -/
def plain : Document → String
  | .text value => value
  | .date year month day => s!"{padded 4 year}-{padded 2 month}-{padded 2 day}"
  | .moment value => value.plain
  | other => other.display

end Document

end ImportOrder
