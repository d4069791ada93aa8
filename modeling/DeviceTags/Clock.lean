import DeviceTags.Calendar

/-!
# Clock readings

From the time that has passed since the beginning of 1970 to the date and the time of day, in
universal time, and the texts of a reading in log lines and in the error log.
-/

namespace DeviceTags

namespace Date

/-- The date so many days after the first of January 1970. Years are counted from March here, so that
the leap day comes last; 400 of them have 146097 days. -/
def afterEpoch (days : Nat) : Date :=
  let shifted := days + 719468
  let inCycle := shifted % 146097
  let yearInCycle := (inCycle - inCycle / 1460 + inCycle / 36524 - inCycle / 146096) / 365
  let dayOfYear := inCycle - (365 * yearInCycle + yearInCycle / 4 - yearInCycle / 100)
  let monthFromMarch := (5 * dayOfYear + 2) / 153
  let month := if monthFromMarch < 10 then monthFromMarch + 3 else monthFromMarch - 9
  { year := yearInCycle + shifted / 146097 * 400 + (if month ≤ 2 then 1 else 0)
    month := month
    day := dayOfYear - (153 * monthFromMarch + 2) / 5 + 1 }

example : afterEpoch 0 = ⟨1970, 1, 1⟩ := by decide
example : afterEpoch 11016 = ⟨2000, 2, 29⟩ := by decide
example : afterEpoch 20819 = ⟨2027, 1, 1⟩ := by decide

end Date

namespace DateTime

/-- The moment so many microseconds after the beginning of 1970, in universal time. -/
def afterEpoch (microseconds : Nat) : DateTime :=
  let seconds := microseconds / 1000000
  { date := .afterEpoch (seconds / 86400)
    time :=
      { hour := seconds % 86400 / 3600
        minute := seconds % 3600 / 60
        second := seconds % 60
        microsecond := microseconds % 1000000 }
    offset := some 0 }

/-- The text of a moment in the error log. -/
def stamp (moment : DateTime) : String :=
  moment.date.plain ++ "T" ++ moment.time.plain ++
    match moment.offset with
    | none => ""
    | some minutes => offsetPlain minutes

/-- The text of a moment in a log line, which leaves out the date and the parts of a second. -/
def wallClock (moment : DateTime) : String :=
  { moment.time with microsecond := 0 }.plain

end DateTime

end DeviceTags
