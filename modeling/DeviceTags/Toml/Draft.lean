import DeviceTags.Datum
import DeviceTags.Entries
import DeviceTags.Toml.Scan

/-!
# Tables under construction

A document is assembled from headers and assignments that may not contradict each other. Each table
remembers how it came about: only mentioned on the way to another one, spelled out by dotted keys in
one section, or declared by a header of its own. A table that dotted keys made can grow in its own
section only, a declared one cannot be declared again, and a value cannot be extended at all.
-/

namespace DeviceTags.Toml

/-- How a table came about; sections are counted by their headers. -/
inductive Origin where
  | mentioned
  | dotted (sectionNumber : Nat)
  | declared
  deriving DecidableEq

/-- What stands under a key: a finished value, a table, or an array of tables of which only the last
one still grows. The last one is kept apart from those before it. -/
inductive Node where
  | value (datum : Datum)
  | table (origin : Origin) (entries : List (String × Node))
  | tables (earlier : List (List (String × Node))) (last : List (String × Node))

/-- The entries of a table under construction. -/
abbrev Draft := List (String × Node)

namespace Draft

/-- Puts a node under a key, in the place of the old one or at the end. -/
def put (draft : Draft) (key : String) (node : Node) : Draft :=
  mergeEntry key node draft

def declare (draft : Draft) : List String → Scan Draft
  | [] => .error .malformed
  | [key] =>
    match draft.lookup key with
    | none => .ok (draft.put key (.table .declared []))
    | some (.table .mentioned entries) => .ok (draft.put key (.table .declared entries))
    | some _ => .error .malformed
  | key :: path =>
    match draft.lookup key with
    | none => do return draft.put key (.table .mentioned (← declare [] path))
    | some (.table origin entries) => do return draft.put key (.table origin (← declare entries path))
    | some (.tables earlier last) => do return draft.put key (.tables earlier (← declare last path))
    | some (.value _) => .error .malformed

/-- Begins another element of the array of tables of a header. -/
def declareElement (draft : Draft) : List String → Scan Draft
  | [] => .error .malformed
  | [key] =>
    match draft.lookup key with
    | none => .ok (draft.put key (.tables [] []))
    | some (.tables earlier last) => .ok (draft.put key (.tables (earlier ++ [last]) []))
    | some _ => .error .malformed
  | key :: path =>
    match draft.lookup key with
    | none => do return draft.put key (.table .mentioned (← declareElement [] path))
    | some (.table origin entries) => do
      return draft.put key (.table origin (← declareElement entries path))
    | some (.tables earlier last) => do
      return draft.put key (.tables earlier (← declareElement last path))
    | some (.value _) => .error .malformed

/-- Assigns a value to a dotted key inside one table. -/
def assign (draft : Draft) (sectionNumber : Nat) (datum : Datum) : List String → Scan Draft
  | [] => .error .malformed
  | [key] =>
    match draft.lookup key with
    | none => .ok (draft.put key (.value datum))
    | some _ => .error .malformed
  | key :: path =>
    match draft.lookup key with
    | none => do
      return draft.put key (.table (.dotted sectionNumber) (← assign [] sectionNumber datum path))
    | some (.table .declared _) => .error .malformed
    | some (.table (.dotted other) entries) =>
      if other = sectionNumber then do
        return draft.put key (.table (.dotted other) (← assign entries sectionNumber datum path))
      else .error .malformed
    | some (.table .mentioned entries) => do
      return draft.put key
        (.table (.dotted sectionNumber) (← assign entries sectionNumber datum path))
    | some _ => .error .malformed

/-- Applies a change to the table that a header opened. -/
def within (draft : Draft) (change : Draft → Scan Draft) : List String → Scan Draft
  | [] => change draft
  | key :: path =>
    match draft.lookup key with
    | some (.table origin entries) => do
      return draft.put key (.table origin (← within entries change path))
    | some (.tables earlier last) => do
      return draft.put key (.tables earlier (← within last change path))
    | _ => .error .malformed

end Draft

mutual

/-- The finished value of a node. -/
def Node.finish : Node → Datum
  | .value datum => datum
  | .table _ entries => .table (finishEntries entries)
  | .tables earlier last => .array (finishTables earlier ++ [.table (finishEntries last)])

/-- The finished entries of a table. -/
def finishEntries : List (String × Node) → List (String × Datum)
  | [] => []
  | (key, node) :: rest => (key, node.finish) :: finishEntries rest

/-- The finished elements of an array of tables. -/
def finishTables : List (List (String × Node)) → List Datum
  | [] => []
  | entries :: rest => .table (finishEntries entries) :: finishTables rest

end

end DeviceTags.Toml
