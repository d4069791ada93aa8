import DeviceTags.Toml.Draft
import DeviceTags.Toml.Scalar

/-!
# Reading documents

From the text of a TOML document to its top level table, entries in the order of first mention.
Values nest through arrays and inline tables, only so deep. The recursion is bounded by the length of
the text: at most two steps stand between two characters that are read.
-/

namespace DeviceTags.Toml

/-- The room for nesting in a value. -/
def nestingRoom : Nat := 988

/-- What is left of the room inside a bracket that takes some of it. -/
def enter (room taken : Nat) : Scan Nat :=
  if taken ≤ room then .ok (room - taken) else .error .tooDeep

mutual

/-- A value of any kind. An array takes two of the room for nesting, an inline table three. -/
def value : Nat → Nat → List Char → Scan (Datum × List Char)
  | 0, _, _ => .error .malformed
  | bound + 1, room, text =>
    match string? text with
    | some scan => scan.map fun found => (.string found.1, found.2)
    | none =>
      match text with
      | '[' :: rest => do
        let room ← enter room 2
        let rest ← skipSpace rest
        let (found, rest) ← items bound room rest
        return (.array found, rest)
      | '\x7b' :: rest => do
        let room ← enter room 3
        let (draft, rest) ← match skipBlanks rest with
          | '\x7d' :: after => pure ([], after)
          | rest => members bound room [] rest
        return (.table (finishEntries draft), rest)
      | _ => scalar text

/-- The items of an array up to its closing bracket; a comma may follow the last one. -/
def items : Nat → Nat → List Char → Scan (List Datum × List Char)
  | 0, _, _ => .error .malformed
  | _ + 1, _, ']' :: rest => .ok ([], rest)
  | bound + 1, room, text => do
    let (item, rest) ← value bound room text
    match ← skipSpace rest with
    | ']' :: after => pure ([item], after)
    | ',' :: after =>
      let (more, rest) ← items bound room (← skipSpace after)
      pure (item :: more, rest)
    | _ => .error .malformed

/-- The members of an inline table up to its closing brace, added to those before. -/
def members : Nat → Nat → Draft → List Char → Scan (Draft × List Char)
  | 0, _, _, _ => .error .malformed
  | bound + 1, room, draft, text => do
    let (path, rest) ← key text
    match rest with
    | '=' :: after =>
      let (datum, rest) ← value bound room (skipBlanks after)
      let draft ← draft.assign 0 datum path
      match skipBlanks rest with
      | '\x7d' :: after => pure (draft, after)
      | ',' :: after => members bound room draft (skipBlanks after)
      | _ => .error .malformed
    | _ => .error .malformed

end

/-- The document read so far: its tables, the header of the current section and its number. -/
structure Progress where
  draft : Draft := []
  header : List String := []
  sectionNumber : Nat := 0

/-- Reads one statement: a header or an assignment, if the line holds one. -/
def statement (progress : Progress) (text : List Char) : Scan (Progress × List Char) :=
  match text with
  | '[' :: '[' :: rest => do
    let (path, rest) ← key (skipBlanks rest)
    let draft ← progress.draft.declareElement path
    match rest with
    | ']' :: ']' :: after => pure (⟨draft, path, progress.sectionNumber + 1⟩, skipBlanks after)
    | _ => .error .malformed
  | '[' :: rest => do
    let (path, rest) ← key (skipBlanks rest)
    let draft ← progress.draft.declare path
    match rest with
    | ']' :: after => pure (⟨draft, path, progress.sectionNumber + 1⟩, skipBlanks after)
    | _ => .error .malformed
  | '#' :: _ => .ok (progress, text)
  | _ => do
    let (path, rest) ← key text
    match rest with
    | '=' :: after =>
      let (datum, rest) ← value (2 * text.length + 2) nestingRoom (skipBlanks after)
      let draft ← progress.draft.within
        (·.assign progress.sectionNumber datum path) progress.header
      pure ({ progress with draft }, skipBlanks rest)
    | _ => .error .malformed

/-- Reads the statements of a document, at most as many lines as the bound. -/
def statements : Nat → Progress → List Char → Scan Draft
  | 0, _, _ => .error .malformed
  | bound + 1, progress, text =>
    match skipBlanks text with
    | [] => .ok progress.draft
    | '\n' :: rest => statements bound progress rest
    | text => do
      let (progress, rest) ← statement progress text
      match ← skipComment rest with
      | [] => .ok progress.draft
      | '\n' :: rest => statements bound progress rest
      | _ => .error .malformed

def read (text : String) : Scan (List (String × Datum)) := do
  let text := joinLineEnds text.toList
  return finishEntries (← statements (text.length + 1) {} text)

end DeviceTags.Toml
