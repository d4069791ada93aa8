import DeviceTags.Store.Basic

/-!
# Reading a changed store

What is read after one record was changed or added. A change of a record of one kind leaves the
records of the other kinds alone, a change of one record leaves the other records of its kind alone,
and a record that is added gets an identity that no record had before.
-/

namespace DeviceTags.Store

variable (store : Store)

/-! ## Records of other kinds -/

section Frame

variable (t : TagId) (h : HeadId) (d : DeviceId) (c : CacheId)

@[simp] theorem head_updateTag (change : Tag → Tag) :
    (store.updateTag t change).head h = store.head h := rfl

@[simp] theorem device_updateTag (change : Tag → Tag) :
    (store.updateTag t change).device d = store.device d := rfl

@[simp] theorem cache_updateTag (change : Tag → Tag) :
    (store.updateTag t change).cache c = store.cache c := rfl

@[simp] theorem tag_updateHead (change : Head → Head) :
    (store.updateHead h change).tag t = store.tag t := rfl

@[simp] theorem device_updateHead (change : Head → Head) :
    (store.updateHead h change).device d = store.device d := rfl

@[simp] theorem cache_updateHead (change : Head → Head) :
    (store.updateHead h change).cache c = store.cache c := rfl

@[simp] theorem tag_updateDevice (change : Device → Device) :
    (store.updateDevice d change).tag t = store.tag t := rfl

@[simp] theorem head_updateDevice (change : Device → Device) :
    (store.updateDevice d change).head h = store.head h := rfl

@[simp] theorem cache_updateDevice (change : Device → Device) :
    (store.updateDevice d change).cache c = store.cache c := rfl

@[simp] theorem tag_updateCache (change : Cache → Cache) :
    (store.updateCache c change).tag t = store.tag t := rfl

@[simp] theorem head_updateCache (change : Cache → Cache) :
    (store.updateCache c change).head h = store.head h := rfl

@[simp] theorem device_updateCache (change : Cache → Cache) :
    (store.updateCache c change).device d = store.device d := rfl

end Frame

/-! ## Records of the same kind -/

theorem tag_updateTag_self {t : TagId} (ht : store.tags.Holds t) (change : Tag → Tag) :
    (store.updateTag t change).tag t = change (store.tag t) :=
  Table.get_update_self ht change

theorem tag_updateTag_of_ne {t other : TagId} (hne : other ≠ t) (change : Tag → Tag) :
    (store.updateTag t change).tag other = store.tag other :=
  Table.get_update_of_ne store.tags hne change

theorem device_updateDevice_self {d : DeviceId} (hd : store.devices.Holds d)
    (change : Device → Device) :
    (store.updateDevice d change).device d = change (store.device d) :=
  Table.get_update_self hd change

theorem device_updateDevice_of_ne {d other : DeviceId} (hne : other ≠ d)
    (change : Device → Device) :
    (store.updateDevice d change).device other = store.device other :=
  Table.get_update_of_ne store.devices hne change

theorem cache_updateCache_self {c : CacheId} (hc : store.caches.Holds c) (change : Cache → Cache) :
    (store.updateCache c change).cache c = change (store.cache c) :=
  Table.get_update_self hc change

theorem cache_updateCache_of_ne {c other : CacheId} (hne : other ≠ c) (change : Cache → Cache) :
    (store.updateCache c change).cache other = store.cache other :=
  Table.get_update_of_ne store.caches hne change

/-! ## Fields that a change keeps -/

/-- A change that keeps the value of a field of every record keeps it for the record that it is made
to, and so for all. -/
theorem field_updateTag {α : Type} (field : Tag → α) {change : Tag → Tag}
    (hkeep : ∀ record, field (change record) = field record) (t other : TagId) :
    field ((store.updateTag t change).tag other) = field (store.tag other) := by
  by_cases hne : other = t
  · subst hne
    by_cases hheld : store.tags.Holds other
    · rw [tag_updateTag_self store hheld, hkeep]
    · rw [Store.tag, Store.tag, Table.get_of_not_holds hheld,
        Table.get_of_not_holds (by simpa [updateTag] using hheld)]
  · rw [tag_updateTag_of_ne store hne]

/-! ## Added records -/

/-- The record behind the last one reads as a blank one until it is added. -/
theorem tag_next (store : Store) : store.tag store.tags.next = default :=
  Table.get_of_not_holds (Table.not_holds_next _)

theorem head_next (store : Store) : store.head store.heads.next = default :=
  Table.get_of_not_holds (Table.not_holds_next _)

theorem device_next (store : Store) : store.device store.devices.next = default :=
  Table.get_of_not_holds (Table.not_holds_next _)

theorem cache_next (store : Store) : store.cache store.caches.next = default :=
  Table.get_of_not_holds (Table.not_holds_next _)

theorem tag_add_of_holds {t : TagId} (ht : store.tags.Holds t) (record : Tag) :
    ({ store with tags := store.tags.add record } : Store).tag t = store.tag t :=
  Table.get_add_of_holds ht record

theorem device_next_add (record : Device) :
    ({ store with devices := store.devices.add record } : Store).device store.devices.next =
      record :=
  Table.get_next_add store.devices record

theorem cache_add_of_holds {c : CacheId} (hc : store.caches.Holds c) (record : Cache) :
    ({ store with caches := store.caches.add record } : Store).cache c = store.cache c :=
  Table.get_add_of_holds hc record

theorem cache_next_add (record : Cache) :
    ({ store with caches := store.caches.add record } : Store).cache store.caches.next = record :=
  Table.get_next_add store.caches record

end DeviceTags.Store
