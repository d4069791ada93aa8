import DeviceTags.Operation

/-!
# Cursors

A cursor walks the tag list of a device as it is at each step, so that tags added behind its position
are still met and tags taken away before it shift what comes next. A released cursor points to no
device and cannot be used.
-/

namespace DeviceTags

/-- A position in the tag list of a device; a released cursor has none. -/
structure Cursor where
  device : Option DeviceId
  position : Nat
  deriving DecidableEq, Repr

namespace Cursor

/-- A cursor before the first tag of a device. -/
def start (d : Option DeviceId) : Except Failure Cursor :=
  match d with
  | none => .error .deviceRequired
  | some d => .ok ⟨some d, 0⟩

def isValid (cursor : Cursor) : Bool := cursor.device.isSome

def release (cursor : Cursor) : Cursor := { cursor with device := none }

/-- The next pair of a name and a value, if one is left, and the cursor behind it. -/
def next (store : Store) (cursor : Cursor) : Except Failure (Option (String × String) × Cursor) :=
  match cursor.device with
  | none => .error .iteratorReleased
  | some d =>
    match (store.pairs d)[cursor.position]? with
    | none => .ok (none, cursor)
    | some pair => .ok (some pair, { cursor with position := cursor.position + 1 })

/-- All pairs that are left, and the cursor behind them. -/
def rest (store : Store) (cursor : Cursor) : Except Failure (List (String × String) × Cursor) :=
  match cursor.device with
  | none => .error .iteratorReleased
  | some d =>
    let left := (store.pairs d).drop cursor.position
    .ok (left, { cursor with position := cursor.position + left.length })

/-- The next pair of what may be no cursor at all. -/
def nextOf (store : Store) (cursor : Option Cursor) :
    Except Failure (Option (String × String) × Cursor) :=
  match cursor with
  | none => .error .notAnIterator
  | some cursor => cursor.next store

end Cursor

end DeviceTags
