import DeviceTags.Datum
import DeviceTags.Toml.String

/-!
# Numbers, dates and truth values

The scalar tokens of a document other than strings. A date or time is tried before a number, since
both start with digits; a calendar date that does not exist refuses the document.
-/

namespace DeviceTags.Toml

/-- A number of exactly so many digits. -/
def digits? (count : Nat) (text : List Char) : Option (Nat × List Char) :=
  let run := text.take count
  if run.length = count && run.all Char.isDigit then some (Text.ofDigits 10 run, text.drop count)
  else none

/-- A number of two digits between bounds. -/
def pair? (least greatest : Nat) (text : List Char) : Option (Nat × List Char) := do
  let (n, rest) ← digits? 2 text
  if least ≤ n && n ≤ greatest then some (n, rest) else none

def after? (c : Char) : List Char → Option (List Char)
  | head :: rest => if head = c then some rest else none
  | [] => none

/-- A date by its form; the day may not exist in its month. -/
def date? (text : List Char) : Option (Date × List Char) := do
  let (year, text) ← digits? 4 text
  let text ← after? '-' text
  let (month, text) ← pair? 1 12 text
  let text ← after? '-' text
  let (day, text) ← pair? 1 31 text
  some (⟨year, month, day⟩, text)

/-- A fraction of a second in microseconds; further digits are dropped. -/
def fraction (text : List Char) : Nat × List Char :=
  match text with
  | '.' :: rest =>
    let run := rest.takeWhile Char.isDigit
    if run.isEmpty then (0, text)
    else
      let six := run.take 6
      (Text.ofDigits 10 (six ++ List.replicate (6 - six.length) '0'), rest.drop run.length)
  | _ => (0, text)

def time? (text : List Char) : Option (TimeOfDay × List Char) := do
  let (hour, text) ← pair? 0 23 text
  let text ← after? ':' text
  let (minute, text) ← pair? 0 59 text
  let text ← after? ':' text
  let (second, text) ← pair? 0 59 text
  let (microsecond, text) := fraction text
  some (⟨hour, minute, second, microsecond⟩, text)

/-- An offset from universal time in minutes. -/
def offset? (text : List Char) : Option (Int × List Char) :=
  match text with
  | 'Z' :: rest | 'z' :: rest => some (0, rest)
  | sign :: rest => do
    let sign : Int ← if sign = '+' then some 1 else if sign = '-' then some (-1) else none
    let (hours, rest) ← pair? 0 23 rest
    let rest ← after? ':' rest
    let (minutes, rest) ← pair? 0 59 rest
    some (sign * (hours * 60 + minutes : Nat), rest)
  | [] => none

/-- A date, or a date and a time after a `T` or a blank. -/
def moment? (text : List Char) : Option (Scan (Datum × List Char)) := do
  let (date, rest) ← date? text
  let found : Datum × List Char :=
    match rest with
    | separator :: after =>
      match (if separator = 'T' || separator = 't' || separator = ' ' then time? after else none) with
      | some (time, rest) =>
        match offset? rest with
        | some (minutes, rest) => (.dateTime ⟨date, time, some minutes⟩, rest)
        | none => (.dateTime ⟨date, time, none⟩, rest)
      | none => (.date date, rest)
    | [] => (.date date, [])
  some (if date.isValid then .ok found else .error .malformed)

/-- The digits that follow the first one of a run, in which single underscores may stand between
digits, and the rest. -/
def moreDigits (base : Nat) : List Char → List Char × List Char
  | '_' :: c :: rest =>
    if Text.isDigitOf base c then
      let (run, rest) := moreDigits base rest
      (c :: run, rest)
    else ([], '_' :: c :: rest)
  | c :: rest =>
    if Text.isDigitOf base c then
      let (run, rest) := moreDigits base rest
      (c :: run, rest)
    else ([], c :: rest)
  | [] => ([], [])

/-- A run of digits with its underscores taken out. -/
def run? (base : Nat) : List Char → Option (List Char × List Char)
  | c :: rest =>
    if Text.isDigitOf base c then
      let (run, rest) := moreDigits base rest
      some (c :: run, rest)
    else none
  | [] => none

/-- The whole part of a decimal number: zero, or a run that does not start with zero. -/
def wholePart? : List Char → Option (List Char × List Char)
  | '0' :: rest => some (['0'], rest)
  | text => run? 10 text

/-- A sign, if there is one, and whether it is a minus. -/
def sign : List Char → Bool × List Char
  | '-' :: rest => (true, rest)
  | '+' :: rest => (false, rest)
  | text => (false, text)

/-- The digits of a fractional part, if there is one. -/
def fractionDigits? : List Char → Option (List Char × List Char)
  | '.' :: rest => run? 10 rest
  | _ => none

/-- The exponent, if there is one. -/
def exponent? : List Char → Option (Int × List Char)
  | c :: rest =>
    if c = 'e' || c = 'E' then do
      let (negative, rest) := sign rest
      let (run, rest) ← run? 10 rest
      let size : Int := (Text.ofDigits 10 run : Nat)
      some (if negative then -size else size, rest)
    else none
  | [] => none

def decimal? (text : List Char) : Option (Scan (Datum × List Char)) := do
  let (negative, rest) := sign text
  let (whole, rest) ← wholePart? rest
  let fraction := fractionDigits? rest
  let rest := (fraction.map (·.2)).getD rest
  let exponent := exponent? rest
  let rest := (exponent.map (·.2)).getD rest
  some <|
    if fraction.isNone && exponent.isNone then
      if whole.length > Text.longestNumeral then .error (.integerTooLong whole.length)
      else
        let size : Int := (Text.ofDigits 10 whole : Nat)
        .ok (.integer (if negative then -size else size), rest)
    else
      let places := ((fraction.map (·.1)).getD [])
      let scale := ((exponent.map (·.1)).getD 0) - places.length
      .ok (.float (.ofDecimal negative (Text.ofDigits 10 (whole ++ places)) scale), rest)

/-- A hexadecimal, octal or binary integer. -/
def based? : List Char → Option (Datum × List Char)
  | '0' :: mark :: rest => do
    let base ← if mark = 'x' then some 16 else if mark = 'o' then some 8
      else if mark = 'b' then some 2 else none
    let (run, rest) ← run? base rest
    some (.integer (Text.ofDigits base run : Nat), rest)
  | _ => none

/-- The words that stand for values. -/
def words : List (String × Datum) :=
  [("true", .boolean true), ("false", .boolean false),
    ("inf", .float (.infinite false)), ("nan", .float .nan),
    ("-inf", .float (.infinite true)), ("+inf", .float (.infinite false)),
    ("-nan", .float .nan), ("+nan", .float .nan)]

/-- A word that stands for a value. -/
def word? (text : List Char) : Option (Datum × List Char) :=
  words.findSome? fun entry =>
    if entry.1.toList.isPrefixOf text then some (entry.2, text.drop entry.1.length) else none

/-- A scalar token other than a string. -/
def scalar (text : List Char) : Scan (Datum × List Char) :=
  match moment? text with
  | some scan => scan
  | none =>
    match time? text with
    | some (time, rest) => .ok (.time time, rest)
    | none =>
      match based? text with
      | some found => .ok found
      | none =>
        match decimal? text with
        | some scan => scan
        | none =>
          match word? text with
          | some found => .ok found
          | none => .error .malformed

end DeviceTags.Toml
