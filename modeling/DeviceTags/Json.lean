import DeviceTags.Text.Digits

/-!
# JSON text

The values that reports print as JSON and their text. The text is ASCII: every other character is
written as one or two escapes of four hexadecimal digits. It is either on one line, with a blank
after commas and colons, or indented by two blanks for each level.
-/

namespace DeviceTags

inductive Json where
  | boolean (value : Bool)
  | integer (value : Int)
  | string (value : String)
  | array (items : List Json)
  | object (members : List (String × Json))

namespace Json

/-- The escape of a code unit of sixteen bits. -/
def unitEscape (unit : Nat) : List Char :=
  '\\' :: 'u' :: Text.hex 4 unit

/-- One character inside a JSON string; above the basic plane it takes a surrogate pair. -/
def escapedChar (c : Char) : List Char :=
  if c = '"' ∨ c = '\\' then ['\\', c]
  else if c = '\n' then ['\\', 'n']
  else if c = '\r' then ['\\', 'r']
  else if c = '\t' then ['\\', 't']
  else if c = '\x0c' then ['\\', 'f']
  else if c = '\x08' then ['\\', 'b']
  else if 32 ≤ c.toNat ∧ c.toNat < 127 then [c]
  else if c.toNat < 0x10000 then unitEscape c.toNat
  else
    let rest := c.toNat - 0x10000
    unitEscape (0xd800 + rest / 0x400) ++ unitEscape (0xdc00 + rest % 0x400)

/-- A JSON string. -/
def stringText (value : String) : String :=
  String.ofList ('"' :: value.toList.flatMap escapedChar ++ ['"'])

mutual

/-- The text on one line. -/
def text : Json → String
  | .boolean value => if value then "true" else "false"
  | .integer value => Text.decimalInt value
  | .string value => stringText value
  | .array items => "[" ++ ", ".intercalate (itemTexts items) ++ "]"
  | .object members => "\x7b" ++ ", ".intercalate (memberTexts members) ++ "\x7d"

def itemTexts : List Json → List String
  | [] => []
  | item :: rest => text item :: itemTexts rest

def memberTexts : List (String × Json) → List String
  | [] => []
  | (name, value) :: rest => (stringText name ++ ": " ++ text value) :: memberTexts rest

end

def lineBreak (level : Nat) : String :=
  "\n" ++ String.ofList (List.replicate (2 * level) ' ')

/-- Encloses lines of one level further in; nothing to enclose leaves the brackets together. -/
def enclose (opening closing : String) (level : Nat) (lines : List String) : String :=
  if lines.isEmpty then opening ++ closing
  else opening ++ lineBreak (level + 1) ++ ("," ++ lineBreak (level + 1)).intercalate lines ++
    lineBreak level ++ closing

mutual

/-- The text over several lines, starting at a level of indentation. -/
def indentedAt (level : Nat) : Json → String
  | .boolean value => if value then "true" else "false"
  | .integer value => Text.decimalInt value
  | .string value => stringText value
  | .array items => enclose "[" "]" level (indentedItems level items)
  | .object members => enclose "\x7b" "\x7d" level (indentedMembers level members)

/-- The texts of the items of an array at a level. -/
def indentedItems (level : Nat) : List Json → List String
  | [] => []
  | item :: rest => indentedAt (level + 1) item :: indentedItems level rest

/-- The texts of the members of an object at a level. -/
def indentedMembers (level : Nat) : List (String × Json) → List String
  | [] => []
  | (name, value) :: rest =>
    (stringText name ++ ": " ++ indentedAt (level + 1) value) :: indentedMembers level rest

end

/-- The text over several lines. -/
def indented (value : Json) : String :=
  indentedAt 0 value

end Json

end DeviceTags
