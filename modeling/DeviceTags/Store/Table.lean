/-!
# Tables of records with an identity

Records are told apart by identity, not by content. A table hands out a new identity for every record
it takes in and never forgets one, so an identity that was once valid stays valid. Reading and
changing a record touch that record only.
-/

namespace DeviceTags

inductive RecordKind where
  | tag
  | head
  | device
  | cache

/-- The identity of a record of one kind. -/
structure Id (kind : RecordKind) where
  index : Nat
  deriving DecidableEq, Repr

/-- Identity of a tag. -/
abbrev TagId := Id .tag

/-- Identity of an index head. -/
abbrev HeadId := Id .head

/-- Identity of a device. -/
abbrev DeviceId := Id .device

/-- Identity of a cache. -/
abbrev CacheId := Id .cache

/-- The records of one kind, by identity. -/
structure Table (kind : RecordKind) (α : Type) where
  rows : Array α := #[]

namespace Table

variable {kind : RecordKind} {α : Type}

def size (table : Table kind α) : Nat := table.rows.size

def Holds (table : Table kind α) (id : Id kind) : Prop := id.index < table.size

instance (table : Table kind α) (id : Id kind) : Decidable (table.Holds id) :=
  inferInstanceAs (Decidable (id.index < table.size))

def get [Inhabited α] (table : Table kind α) (id : Id kind) : α :=
  (table.rows[id.index]?).getD default

def next (table : Table kind α) : Id kind := ⟨table.size⟩

/-- The table with one more record. -/
def add (table : Table kind α) (record : α) : Table kind α :=
  ⟨table.rows.push record⟩

def update (table : Table kind α) (id : Id kind) (change : α → α) : Table kind α :=
  ⟨table.rows.modify id.index change⟩

@[simp] theorem size_add (table : Table kind α) (record : α) :
    (table.add record).size = table.size + 1 := by
  simp [size, add]

@[simp] theorem size_update (table : Table kind α) (id : Id kind) (change : α → α) :
    (table.update id change).size = table.size := by
  simp [size, update]

@[simp] theorem holds_update (table : Table kind α) (id other : Id kind) (change : α → α) :
    (table.update id change).Holds other ↔ table.Holds other := by
  simp [Holds]

theorem holds_add_of_holds {table : Table kind α} {id : Id kind} (record : α)
    (hid : table.Holds id) : (table.add record).Holds id := by
  simp only [Holds, size_add] at *
  omega

theorem holds_next_add (table : Table kind α) (record : α) :
    (table.add record).Holds table.next := by
  simp [Holds, next]

theorem not_holds_next (table : Table kind α) : ¬ table.Holds table.next := by
  simp [Holds, next]

theorem ne_next_of_holds {table : Table kind α} {id : Id kind} (hid : table.Holds id) :
    id ≠ table.next :=
  fun heq => not_holds_next table (heq ▸ hid)

theorem get_update_self [Inhabited α] {table : Table kind α} {id : Id kind} (hid : table.Holds id)
    (change : α → α) : (table.update id change).get id = change (table.get id) := by
  have hlt : id.index < table.rows.size := hid
  simp [get, update, hlt, Array.getElem_modify]

theorem get_update_of_ne [Inhabited α] (table : Table kind α) {id other : Id kind}
    (hne : other ≠ id) (change : α → α) : (table.update id change).get other = table.get other := by
  have hindex : id.index ≠ other.index := by
    intro heq
    exact hne (by cases id; cases other; simp_all)
  simp [get, update, Array.getElem?_modify, hindex]

theorem get_of_not_holds [Inhabited α] {table : Table kind α} {id : Id kind}
    (hid : ¬ table.Holds id) : table.get id = default := by
  have hle : table.rows.size ≤ id.index := Nat.le_of_not_lt hid
  simp [get, hle]

theorem get_add_of_holds [Inhabited α] {table : Table kind α} {id : Id kind} (hid : table.Holds id)
    (record : α) : (table.add record).get id = table.get id := by
  have hlt : id.index < table.rows.size := hid
  simp [get, add, Array.getElem?_push, Nat.ne_of_lt hlt]

theorem get_next_add [Inhabited α] (table : Table kind α) (record : α) :
    (table.add record).get table.next = record := by
  simp [get, add, next, size]

/-- Two tables with the same records are the same. -/
theorem ext_get [Inhabited α] {first second : Table kind α} (hsize : second.size = first.size)
    (hget : ∀ id, second.get id = first.get id) : second = first := by
  obtain ⟨rows⟩ := first
  obtain ⟨others⟩ := second
  congr 1
  refine Array.ext hsize fun i hother hrow => ?_
  have hrecord := hget ⟨i⟩
  rw [get, get, Array.getElem?_eq_getElem hother, Array.getElem?_eq_getElem hrow,
    Option.getD_some, Option.getD_some] at hrecord
  exact hrecord

/-- A change that a record does not show leaves the table as it is. -/
theorem update_eq_self [Inhabited α] {table : Table kind α} {id : Id kind} (hid : table.Holds id)
    {change : α → α} (hsame : change (table.get id) = table.get id) :
    table.update id change = table := by
  refine ext_get (size_update table id change) fun other => ?_
  by_cases hother : other = id
  · rw [hother, get_update_self hid, hsame]
  · exact get_update_of_ne table hother change

end Table

end DeviceTags
