import ImportOrder.Json.Writer
import ImportOrder.Report.Outcome
import ImportOrder.Settings.Builtin

/-! The report of a run as one JSON document. -/

namespace ImportOrder.Report

/-- The entry of an outcome; a changed file was written unless the run only checks. -/
def entry (check : Bool) (outcome : Outcome) : Document :=
  match outcome.result with
  | .error message =>
    Settings.texts [("file", outcome.path), ("status", "error"), ("error", message)]
  | .ok result =>
    Settings.table
      [("file", .text outcome.path), ("status", .text result.status),
       ("changed", .bool result.changed), ("written", .bool (result.changed && !check)),
       ("imports", .int result.importCount), ("groups", .int result.groupCount),
       ("sort_ms", .int result.milliseconds), ("reason", .text result.reason)]

/-- The counts of a summary. -/
def summaryTable (summary : Summary) : Document :=
  Settings.table
    [("changed", .int summary.changed), ("unchanged", .int summary.unchanged),
     ("skipped", .int summary.skipped), ("errors", .int summary.errors)]

/-- The report of outcomes. -/
def json (check : Bool) (outcomes : List Outcome) (summary : Summary) : Text :=
  Json.indent (Settings.table
    [("files", .list (outcomes.map (entry check))), ("summary", summaryTable summary)])

end ImportOrder.Report
