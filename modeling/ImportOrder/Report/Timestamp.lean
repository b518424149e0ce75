import ImportOrder.Document.Display

/-! Moments counted from the start of 1970, and the timestamps of log entries. -/

namespace ImportOrder.Moment

/-- The year, month and day of a number of days since the start of March of year zero: years start
in March here, so that the day that comes and goes is the last of its year. -/
def civilFrom (days : Nat) : Nat × Nat × Nat :=
  let era := days / 146097
  let dayOfEra := days % 146097
  let yearOfEra := (dayOfEra - dayOfEra / 1460 + dayOfEra / 36524 - dayOfEra / 146096) / 365
  let dayOfYear := dayOfEra - (365 * yearOfEra + yearOfEra / 4 - yearOfEra / 100)
  let shifted := (5 * dayOfYear + 2) / 153
  let month := if shifted < 10 then shifted + 3 else shifted - 9
  let year := yearOfEra + era * 400
  (if month ≤ 2 then year + 1 else year, month, dayOfYear - (153 * shifted + 2) / 5 + 1)

/-- The moment of universal time that lies a number of microseconds behind the start of 1970. -/
def ofMicroseconds (count : Nat) : Moment :=
  let seconds := count / 1000000
  -- From the start of March of year zero to the start of 1970.
  let (year, month, day) := civilFrom (seconds / 86400 + 719468)
  { year, month, day, hour := seconds / 3600 % 24, minute := seconds / 60 % 60
    second := seconds % 60, micro := count % 1000000, zone := none }

/-- The timestamp of a moment of universal time. -/
def timestamp (m : Moment) : String := "T".intercalate (m.plain.splitOn " ") ++ "Z"

end ImportOrder.Moment
