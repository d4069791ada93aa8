import DeviceTags.Datum

/-!
# Whole numbers

What may stand where a whole number is expected: a number, or a truth value that counts as one or
zero and stays a truth value when it is shown.
-/

namespace DeviceTags

/-- A whole number, or a truth value in its place. -/
inductive Whole where
  | integer (value : Int)
  | boolean (value : Bool)
  deriving DecidableEq, Repr

namespace Whole

/-- The number that counts. -/
def toInt : Whole → Int
  | .integer value => value
  | .boolean value => if value then 1 else 0

def toDatum : Whole → Datum
  | .integer value => .integer value
  | .boolean value => .boolean value

/-- The whole number that a value of unchecked type is, if it is one. -/
def ofDatum? : Datum → Option Whole
  | .integer value => some (.integer value)
  | .boolean value => some (.boolean value)
  | _ => none

def isWritable : Whole → Bool
  | .integer value => Text.isWritable value
  | .boolean _ => true

@[simp] theorem ofDatum?_toDatum (value : Whole) : ofDatum? value.toDatum = some value := by
  cases value <;> rfl

end Whole

end DeviceTags
