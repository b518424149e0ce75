import ImportOrder.Text.Basic

/-! What sorting one source comes to. -/

namespace ImportOrder

/-- The names of what a sort can come to. -/
structure StatusNames where
  sorted : String
  unchanged : String
  skipped : String

/-- The imports were put in order, were in order, or were left alone. -/
def Status : StatusNames := ⟨"sorted", "unchanged", "skipped"⟩

/-- The result of a sort: its status, the text it leaves, and what was counted on the way. -/
structure SortResult where
  status : String
  source : Text
  changed : Bool := false
  importCount : Int := 0
  groupCount : Int := 0
  milliseconds : Int := 0
  reason : String := ""
deriving DecidableEq, Repr

/-- What became of a file: a result, or a message about a failure. -/
structure Outcome where
  path : String
  result : Except String SortResult

namespace Outcome

/-- The result of a file that did not fail. -/
def result? (outcome : Outcome) : Option SortResult := outcome.result.toOption

/-- Whether a file failed. -/
def failed (outcome : Outcome) : Bool := outcome.result?.isNone

end Outcome

/-- How many files came to what. -/
structure Summary where
  changed : Nat
  unchanged : Nat
  skipped : Nat
  errors : Nat
deriving DecidableEq, Repr

/-- The summary of results and of a number of failures. -/
def Summary.of (results : List SortResult) (errors : Nat) : Summary :=
  { changed := results.countP fun result => result.changed
    unchanged := results.countP fun result => !result.changed && result.status != Status.skipped
    skipped := results.countP fun result => result.status == Status.skipped
    errors }

/-- The summary of outcomes. -/
def Summary.ofOutcomes (outcomes : List Outcome) : Summary :=
  .of (outcomes.filterMap Outcome.result?) (outcomes.countP Outcome.failed)

end ImportOrder
