import DeviceTags.Text.Digits

/-!
# Dates and times

Calendar dates of the years 1 to 9999, times of day down to microseconds, and their combinations
with an optional offset from universal time, together with the two texts they have: the constructor
text that messages show and the plain text that a document holds.
-/

namespace DeviceTags

structure Date where
  year : Nat
  month : Nat
  day : Nat
  deriving DecidableEq, Repr

structure TimeOfDay where
  hour : Nat
  minute : Nat
  second : Nat
  microsecond : Nat
  deriving DecidableEq, Repr

/-- A date and a time, with an offset from universal time in minutes if one is known. -/
structure DateTime where
  date : Date
  time : TimeOfDay
  offset : Option Int
  deriving DecidableEq, Repr

namespace Date

/-- Every fourth year has a leap day, full centuries only every fourth time. -/
def isLeapYear (year : Nat) : Bool :=
  year % 4 = 0 && (year % 100 ≠ 0 || year % 400 = 0)

/-- The number of days of a month; months out of range have none. -/
def daysIn (year month : Nat) : Nat :=
  match month with
  | 1 | 3 | 5 | 7 | 8 | 10 | 12 => 31
  | 4 | 6 | 9 | 11 => 30
  | 2 => if isLeapYear year then 29 else 28
  | _ => 0

def isValid (date : Date) : Bool :=
  1 ≤ date.year && date.year ≤ 9999 && 1 ≤ date.day && date.day ≤ daysIn date.year date.month

def arguments (date : Date) : List Nat :=
  [date.year, date.month, date.day]

/-- The plain text, such as `2020-01-02`. -/
def plain (date : Date) : String :=
  String.ofList (Text.padZeros 4 (Text.decimal date.year) ++ '-' ::
    Text.padZeros 2 (Text.decimal date.month) ++ '-' :: Text.padZeros 2 (Text.decimal date.day))

end Date

def commaSeparated (numbers : List Nat) : String :=
  ", ".intercalate (numbers.map fun n => String.ofList (Text.decimal n))

namespace TimeOfDay

/-- The arguments of a constructor text: the microseconds are left out when zero, and then the
seconds too when they are zero. -/
def arguments (time : TimeOfDay) : List Nat :=
  [time.hour, time.minute] ++
    if time.microsecond ≠ 0 then [time.second, time.microsecond]
    else if time.second ≠ 0 then [time.second]
    else []

/-- The plain text, such as `07:32:00.500000`. -/
def plain (time : TimeOfDay) : String :=
  String.ofList (Text.padZeros 2 (Text.decimal time.hour) ++ ':' ::
    Text.padZeros 2 (Text.decimal time.minute) ++ ':' ::
    Text.padZeros 2 (Text.decimal time.second) ++
    if time.microsecond = 0 then [] else '.' :: Text.padZeros 6 (Text.decimal time.microsecond))

end TimeOfDay

namespace DateTime

/-- A duration of whole minutes as days and seconds, the seconds of a day never negative. -/
def durationLiteral (minutes : Int) : String :=
  let days := (minutes * 60).fdiv 86400
  let seconds := (minutes * 60).fmod 86400
  let parts := (if days = 0 then [] else ["days=" ++ Text.decimalInt days]) ++
    if seconds = 0 then [] else ["seconds=" ++ Text.decimalInt seconds]
  "datetime.timedelta(" ++ (if parts.isEmpty then "0" else ", ".intercalate parts) ++ ")"

def offsetLiteral (minutes : Int) : String :=
  if minutes = 0 then "datetime.timezone.utc"
  else "datetime.timezone(" ++ durationLiteral minutes ++ ")"

/-- The plain text of an offset, such as `-07:00`. -/
def offsetPlain (minutes : Int) : String :=
  String.ofList ((if minutes < 0 then '-' else '+') ::
    Text.padZeros 2 (Text.decimal (minutes.natAbs / 60)) ++ ':' ::
    Text.padZeros 2 (Text.decimal (minutes.natAbs % 60)))

def literal (moment : DateTime) : String :=
  let offset := match moment.offset with
    | none => ""
    | some minutes => ", tzinfo=" ++ offsetLiteral minutes
  "datetime.datetime(" ++ commaSeparated (moment.date.arguments ++ moment.time.arguments) ++
    offset ++ ")"

/-- The plain text, with a blank between date and time. -/
def plain (moment : DateTime) : String :=
  moment.date.plain ++ " " ++ moment.time.plain ++
    match moment.offset with
    | none => ""
    | some minutes => offsetPlain minutes

end DateTime

def Date.literal (date : Date) : String :=
  "datetime.date(" ++ commaSeparated date.arguments ++ ")"

def TimeOfDay.literal (time : TimeOfDay) : String :=
  "datetime.time(" ++ commaSeparated time.arguments ++ ")"

end DeviceTags
