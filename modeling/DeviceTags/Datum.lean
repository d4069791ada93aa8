import DeviceTags.Calendar
import DeviceTags.Number.Shortest
import DeviceTags.Text.Quoted

/-!
# Values of unchecked type

What a configuration document or a caller can hand over before anyone has checked its type: nothing,
a truth value, a number, a text, a date or a time, a list or a table. Besides the type this module
holds what is done with an unchecked value: asking whether it counts as true, and showing it in a
message, which a number of too many digits or too deep a nesting prevents, and measuring how deep it
nests.
-/

namespace DeviceTags

/-- A value of unchecked type; the entries of a table keep their order. -/
inductive Datum where
  | none
  | boolean (value : Bool)
  | integer (value : Int)
  | float (value : Number.Binary64)
  | string (value : String)
  | date (value : Date)
  | time (value : TimeOfDay)
  | dateTime (value : DateTime)
  | array (items : List Datum)
  | table (entries : List (String × Datum))
  deriving Repr, Inhabited

namespace Datum

/-- Nothing, false, zero and everything empty count as false. -/
def isTrue : Datum → Bool
  | .none => false
  | .boolean value => value
  | .integer value => value ≠ 0
  | .float value => !value.isZero
  | .string value => value ≠ ""
  | .date _ | .time _ | .dateTime _ => true
  | .array items => !items.isEmpty
  | .table entries => !entries.isEmpty

mutual

def literal : Datum → String
  | .none => "None"
  | .boolean true => "True"
  | .boolean false => "False"
  | .integer value => Text.decimalInt value
  | .float value => value.text
  | .string value => Text.quoted value
  | .date value => value.literal
  | .time value => value.literal
  | .dateTime value => value.literal
  | .array items => "[" ++ ", ".intercalate (literalItems items) ++ "]"
  | .table entries => "\x7b" ++ ", ".intercalate (literalEntries entries) ++ "\x7d"

def literalItems : List Datum → List String
  | [] => []
  | item :: rest => literal item :: literalItems rest

def literalEntries : List (String × Datum) → List String
  | [] => []
  | (key, value) :: rest => (Text.quoted key ++ ": " ++ literal value) :: literalEntries rest

end

mutual

/-- How deep tables and lists nest in a value. -/
def depth : Datum → Nat
  | .array items => itemsDepth items + 1
  | .table entries => entriesDepth entries + 1
  | _ => 0

/-- How deep the items of a list nest. -/
def itemsDepth : List Datum → Nat
  | [] => 0
  | item :: rest => max (depth item) (itemsDepth rest)

/-- How deep the entries of a table nest. -/
def entriesDepth : List (String × Datum) → Nat
  | [] => 0
  | (_, value) :: rest => max (depth value) (entriesDepth rest)

end

inductive Hindrance where
  | nestedTooDeep
  | integerTooLong
  deriving DecidableEq, Repr

mutual

/-- The first thing in a value that keeps it from being shown. Every value on the way to the one that
is looked at takes one of the room. -/
def hindrance? : Nat → Datum → Option Hindrance
  | 0, _ => some .nestedTooDeep
  | _ + 1, .integer value => if Text.isWritable value then Option.none else some .integerTooLong
  | room + 1, .array items => hindranceInItems? room items
  | room + 1, .table entries => hindranceInEntries? room entries
  | _ + 1, _ => Option.none

/-- The first hindrance in the items of a list. -/
def hindranceInItems? : Nat → List Datum → Option Hindrance
  | _, [] => Option.none
  | room, item :: rest => (hindrance? room item).or (hindranceInItems? room rest)

/-- The first hindrance in the entries of a table. -/
def hindranceInEntries? : Nat → List (String × Datum) → Option Hindrance
  | _, [] => Option.none
  | room, (_, value) :: rest => (hindrance? room value).or (hindranceInEntries? room rest)

end

end Datum

end DeviceTags
