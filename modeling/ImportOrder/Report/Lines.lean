import ImportOrder.Report.Outcome
import ImportOrder.Settings.Lookup

/-! Status lines and the summary line, in colour on a terminal. -/

namespace ImportOrder

namespace Theme

/-- The escape codes of the colours by name. -/
def codes : Entries := ((Settings.theme.entries.get? "ansi").getD .null).entries

/-- The escape code of a colour, empty if there is none. -/
def codeOf (colour : String) : String := codes.textOr colour ""

/-- The escape codes by role, with the one that ends a colour. -/
def table : List (String × String) :=
  (((Settings.theme.entries.get? "roles").getD .null).entries.map fun (role, colour) =>
    (role.plain, codeOf colour.plain)) ++ [("reset", codeOf "reset")]

/-- The escape code of a role, empty if the role has none. -/
def roleCode (role : String) : String := (table.lookup role).getD ""

/-- A text in the colour of a role, as it is off a terminal. -/
def paint (terminal : Bool) (role text : String) : String :=
  if terminal && roleCode role != "" then roleCode role ++ text ++ roleCode "reset" else text

end Theme

namespace Report

/-- The role of a result: its status, or that it would be sorted. -/
def roleOf (check : Bool) (result : SortResult) : String :=
  if result.changed && check then "would_sort" else result.status

/-- A label in its column. -/
def column (label : String) : String :=
  label ++ String.ofList (List.replicate (10 - label.length) ' ')

/-- A status line with a reason if there is one. -/
def line (label path reason : String) : String :=
  column label ++ " " ++ path ++ (if reason == "" then "" else s!"  ({reason})")

/-- The status line of a result, if its status has a label. -/
def resultLine (terminal check : Bool) (path : String) (result : SortResult) :
    Except Settings.LookupError String := do
  let role := roleOf check result
  let label ← Settings.getText Settings.builtin ("labels." ++ role)
  return Theme.paint terminal role (line label path result.reason)

/-- The status line of a failure. -/
def errorLine (terminal : Bool) (path message : String) : String :=
  Theme.paint terminal "error" (column "error" ++ s!" {path}  ({message})")

/-- The summary line. -/
def summaryLine (terminal : Bool) (summary : Summary) : String :=
  Theme.paint terminal "summary"
    (s!"{summary.changed} changed, {summary.unchanged} unchanged, {summary.skipped} skipped, " ++
      s!"{summary.errors} failed")

end Report

end ImportOrder
