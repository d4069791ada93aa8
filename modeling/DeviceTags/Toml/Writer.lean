import DeviceTags.Datum

/-!
# Writing documents

The text of a TOML document for an ordered table. In every table the plain values come first and the
tables after them, set apart by an empty line. A list of tables is written inline, one element a
line, when every such line has at most a hundred characters, and counts as a plain value then;
otherwise each element has a header of its own. A table that holds nothing but tables has no header.
A missing value, an integer of too many digits and a value that nests too deep have no text. What
comes before such a value is written all the same.
-/

namespace DeviceTags.Toml

/-- The longest line of an inline list of tables. -/
def longestLine : Nat := 100

/-- One character inside a basic string. -/
def writtenChar (c : Char) : List Char :=
  if c = '"' ∨ c = '\\' then ['\\', c]
  else if c = '\x08' then ['\\', 'b']
  else if c = '\n' then ['\\', 'n']
  else if c = '\x0c' then ['\\', 'f']
  else if c = '\r' then ['\\', 'r']
  else if (c.toNat < 32 ∧ c ≠ '\t') ∨ c.toNat = 127 then '\\' :: 'u' :: Text.hex 4 c.toNat
  else [c]

/-- A basic string. -/
def writtenString (value : String) : String :=
  String.ofList ('"' :: value.toList.flatMap writtenChar ++ ['"'])

/-- A key is bare if it can be, and a basic string otherwise. -/
def writtenKey (key : String) : String :=
  if !key.isEmpty && key.toList.all (fun c => c.isAlphanum || c = '_' || c = '-') then key
  else writtenString key

/-- Four blanks for each level. -/
def indent (level : Nat) : String :=
  String.ofList (List.replicate (4 * level) ' ')

mutual

/-- A value as it stands after an equals sign, inside so many brackets; an empty string for a missing
value. -/
def writtenValue (level : Nat) : Datum → String
  | .none => "\"\""
  | .boolean value => if value then "true" else "false"
  | .integer value => Text.decimalInt value
  | .float value => value.text
  | .string value => writtenString value
  | .date value => value.plain
  | .time value => value.plain
  | .dateTime value => value.plain
  | .array [] => "[]"
  | .array (item :: rest) =>
    "[\n" ++ ",\n".intercalate (writtenItems level (item :: rest)) ++ ",\n" ++ indent level ++ "]"
  | .table [] => "\x7b\x7d"
  | .table (entry :: rest) =>
    "\x7b " ++ ", ".intercalate (writtenMembers (entry :: rest)) ++ " \x7d"

def writtenItems (level : Nat) : List Datum → List String
  | [] => []
  | item :: rest =>
    (indent (level + 1) ++ writtenValue (level + 1) item) :: writtenItems level rest

/-- The members of an inline table; an array in it is indented as if it stood alone. -/
def writtenMembers : List (String × Datum) → List String
  | [] => []
  | (key, value) :: rest =>
    (writtenKey key ++ " = " ++ writtenValue 0 value) :: writtenMembers rest

end

/-- Whether a table fits on one line of an inline list. -/
def fitsInline (entries : List (String × Datum)) : Bool :=
  let line := indent 1 ++ writtenValue 0 (.table entries) ++ ","
  line.length ≤ longestLine && !line.toList.contains '\n'

/-- The tables that a list consists of, if it is not empty and holds nothing else. -/
def tablesOf? : Datum → Option (List (List (String × Datum)))
  | .array (item :: rest) =>
    (item :: rest).mapM fun item => match item with
      | .table entries => some entries
      | _ => none
  | _ => none

/-- How an entry of a table is written: after an equals sign, under a header, or under one header for
each element. -/
inductive Placement where
  | inline
  | header (entries : List (String × Datum))
  | elements (tables : List (List (String × Datum)))

def placement (value : Datum) : Placement :=
  match value with
  | .table entries => .header entries
  | value =>
    match tablesOf? value with
    | some tables => if tables.all fitsInline then .inline else .elements tables
    | none => .inline

/-- The lines of the entries that stand after an equals sign. -/
def inlineLines (entries : List (String × Datum)) : List String :=
  entries.filterMap fun entry =>
    match placement entry.2 with
    | .inline => some (writtenKey entry.1 ++ " = " ++ writtenValue 0 entry.2 ++ "\n")
    | _ => none

/-- The tables below a table, each with its key and whether it is an element of a list. -/
def subtables (entries : List (String × Datum)) :
    List (String × List (String × Datum) × Bool) :=
  entries.flatMap fun entry =>
    match placement entry.2 with
    | .inline => []
    | .header table => [(entry.1, table, false)]
    | .elements tables => tables.map fun table => (entry.1, table, true)

/-- The header line of a table: always for an element of a list, and for a named table unless it
holds tables only. -/
def headerLine (name : String) (element : Bool) (entries : List (String × Datum)) : List String :=
  if element then ["[[" ++ name ++ "]]\n"]
  else if name ≠ "" ∧ (inlineLines entries ≠ [] ∨ subtables entries = []) then
    ["[" ++ name ++ "]\n"]
  else []

/-- The name of a table below another one. -/
def nameBelow (name key : String) : String :=
  if name = "" then writtenKey key else name ++ "." ++ writtenKey key

/-- Header and plain values of a table with the tables below it, set apart by empty lines. -/
def blocksText (head : List String) (below : List String) : String :=
  "\n".intercalate ((if head = [] then [] else [String.join head]) ++ below)

/-- The text of a table and of the tables below it, at most so many levels deep. -/
def tableText : Nat → String → Bool → List (String × Datum) → String
  | 0, _, _, _ => ""
  | depth + 1, name, element, entries =>
    blocksText (headerLine name element entries ++ inlineLines entries)
      ((subtables entries).map fun sub => tableText depth (nameBelow name sub.1) sub.2.2 sub.2.1)

inductive Obstacle where
  | valueMissing
  | integerTooLong
  | nestedTooDeep
  deriving DecidableEq, Repr

/-- The room for nesting in a document that is written. -/
def writingRoom : Nat := 993

mutual

/-- The first thing in a value that cannot be written after an equals sign. A bracket takes four of
the room for nesting, unless it is empty. -/
def obstacle? (room : Nat) : Datum → Option Obstacle
  | .none => some .valueMissing
  | .integer value => if Text.isWritable value then none else some .integerTooLong
  | .array items => obstacleInItems? room items
  | .table entries => obstacleInEntries? room entries
  | _ => none

/-- The first thing in the items of a list that cannot be written. -/
def obstacleInItems? (room : Nat) : List Datum → Option Obstacle
  | [] => none
  | item :: rest =>
    if room < 4 then some .nestedTooDeep
    else (obstacle? (room - 4) item).or (obstacleInItems? room rest)

/-- The first thing in the entries of a table that cannot be written. -/
def obstacleInEntries? (room : Nat) : List (String × Datum) → Option Obstacle
  | [] => none
  | (_, value) :: rest =>
    if room < 4 then some .nestedTooDeep
    else (obstacle? (room - 4) value).or (obstacleInEntries? room rest)

end

/-- The first obstacle in trying tables on one line each, which ends with the first one that does not
fit. -/
def obstacleInTrial? (room : Nat) : List (List (String × Datum)) → Option Obstacle
  | [] => none
  | entries :: rest =>
    (obstacle? room (.table entries)).or
      (if fitsInline entries then obstacleInTrial? room rest else none)

/-- The first obstacle in trying the lists of tables among entries on one line each, which takes three
of the room for nesting. -/
def trialObstacle? (room : Nat) (entries : List (String × Datum)) : Option Obstacle :=
  entries.findSome? fun entry => (tablesOf? entry.2).bind (obstacleInTrial? (room - 2))

/-- The obstacle to the line of an entry that stands after an equals sign. -/
def lineObstacle? (room : Nat) (entry : String × Datum) : Option Obstacle :=
  match placement entry.2 with
  | .inline => obstacle? room entry.2
  | _ => none

/-- The first obstacle to the text of a table and of the tables below it, at most so many levels deep.
Lists of tables are tried on one line each before anything is written; then come the plain values and
at last the tables, which take one of the room for nesting. -/
def tableObstacle? : Nat → Nat → List (String × Datum) → Option Obstacle
  | 0, _, _ => none
  | _ + 1, 0, _ => some .nestedTooDeep
  | depth + 1, room + 1, entries =>
    ((trialObstacle? room entries).or (entries.findSome? (lineObstacle? room))).or
      ((subtables entries).findSome? fun sub => tableObstacle? depth room sub.2.1)

/-- What is written of a table that has an obstacle, in it or below it, before that is met. -/
def textBefore : Nat → Nat → String → Bool → List (String × Datum) → String
  | depth + 1, room + 1, name, element, entries =>
    if (trialObstacle? room entries).isSome then ""
    else
      let lines := entries.takeWhile fun entry => (lineObstacle? room entry).isNone
      let head := headerLine name element entries ++ inlineLines lines
      if lines.length < entries.length then blocksText head []
      else
        let tables := subtables entries
        let whole := tables.takeWhile fun sub => (tableObstacle? depth room sub.2.1).isNone
        let broken := (tables.drop whole.length).take 1
        blocksText head
          (whole.map (fun sub => tableText depth (nameBelow name sub.1) sub.2.2 sub.2.1) ++
            broken.map fun sub => textBefore depth room (nameBelow name sub.1) sub.2.2 sub.2.1)
  | _, _, _, _, _ => ""

def documentText (entries : List (String × Datum)) : String :=
  tableText (Datum.entriesDepth entries + 1) "" false entries

/-- What was written of a document, and what stopped it if anything did. -/
structure Written where
  text : String
  obstacle : Option Obstacle := none
  deriving DecidableEq, Repr

/-- The document of a top level table, up to the first thing in it that cannot be written. -/
def write (entries : List (String × Datum)) : Written :=
  let depth := Datum.entriesDepth entries + 1
  match tableObstacle? depth writingRoom entries with
  | some obstacle => ⟨textBefore depth writingRoom "" false entries, some obstacle⟩
  | none => ⟨documentText entries, none⟩

end DeviceTags.Toml
