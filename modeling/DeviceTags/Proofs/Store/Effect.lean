import DeviceTags.Collaborator

/-!
# What operations leave behind

The store after an operation that went through, as one function of the store before it: a tag linked
or unlinked, a tag made, a device attached or removed, the tags of a name deleted. For the two on
which all others rest, linking and unlinking one tag, the section ends with what every record reads
afterwards, so that nothing later has to open them.
-/

namespace DeviceTags

namespace Table

variable {kind : RecordKind} {α : Type} [Inhabited α]

/-- What a changed table reads everywhere, for a change of a record that is there or a change that
does nothing to the record that stands for a missing one. -/
theorem get_update {table : Table kind α} {id : Id kind} {change : α → α}
    (hid : table.Holds id ∨ change default = default) (other : Id kind) :
    (table.update id change).get other =
      if other = id then change (table.get other) else table.get other := by
  by_cases hother : other = id
  · subst hother
    rw [if_pos rfl]
    by_cases hheld : table.Holds other
    · exact get_update_self hheld change
    · have hdefault := hid.resolve_left hheld
      rw [get_of_not_holds hheld, hdefault, get_of_not_holds]
      simpa using hheld
  · rw [if_neg hother, get_update_of_ne table hother]

/-- What a lengthened table reads everywhere. -/
theorem get_add (table : Table kind α) (record : α) (other : Id kind) :
    (table.add record).get other = if other = table.next then record else table.get other := by
  by_cases hother : other = table.next
  · rw [if_pos hother, hother, get_next_add]
  · rw [if_neg hother]
    by_cases hheld : table.Holds other
    · exact get_add_of_holds hheld record
    · have hindex : other.index ≠ table.size := fun heq => hother (by cases other; simp_all [next])
      have hlater : ¬ (table.add record).Holds other := by
        simp only [Holds, size_add] at *
        omega
      rw [get_of_not_holds hheld, get_of_not_holds hlater]

/-- A change that keeps a field of every record keeps it everywhere. -/
theorem field_update {β : Type} (field : α → β) {change : α → α}
    (hkeep : ∀ record, field (change record) = field record) (table : Table kind α)
    (id other : Id kind) :
    field ((table.update id change).get other) = field (table.get other) := by
  by_cases hother : other = id
  · subst hother
    by_cases hheld : table.Holds other
    · rw [get_update_self hheld, hkeep]
    · rw [get_of_not_holds hheld, get_of_not_holds (by simpa using hheld)]
  · rw [get_update_of_ne table hother]

end Table

namespace Store

variable (store : Store)

theorem tag_updateTag {t : TagId} {change : Tag → Tag}
    (ht : store.tags.Holds t ∨ change default = default) (u : TagId) :
    (store.updateTag t change).tag u =
      if u = t then change (store.tag u) else store.tag u :=
  Table.get_update ht u

theorem head_updateHead {h : HeadId} {change : Head → Head}
    (hh : store.heads.Holds h ∨ change default = default) (k : HeadId) :
    (store.updateHead h change).head k =
      if k = h then change (store.head k) else store.head k :=
  Table.get_update hh k

theorem device_updateDevice {d : DeviceId} {change : Device → Device}
    (hd : store.devices.Holds d ∨ change default = default) (e : DeviceId) :
    (store.updateDevice d change).device e =
      if e = d then change (store.device e) else store.device e :=
  Table.get_update hd e

theorem cache_updateCache {c : CacheId} {change : Cache → Cache}
    (hc : store.caches.Holds c ∨ change default = default) (k : CacheId) :
    (store.updateCache c change).cache k =
      if k = c then change (store.cache k) else store.cache k :=
  Table.get_update hc k

/-- Every identity of the one store is one of the other. -/
structure Extends (before after : Store) : Prop where
  tags : before.tags.size ≤ after.tags.size
  heads : before.heads.size ≤ after.heads.size
  devices : before.devices.size ≤ after.devices.size
  caches : before.caches.size ≤ after.caches.size

theorem Extends.refl (store : Store) : Extends store store :=
  ⟨Nat.le_refl _, Nat.le_refl _, Nat.le_refl _, Nat.le_refl _⟩

theorem Extends.trans {first second third : Store} (hfirst : Extends first second)
    (hsecond : Extends second third) : Extends first third :=
  ⟨Nat.le_trans hfirst.tags hsecond.tags, Nat.le_trans hfirst.heads hsecond.heads,
    Nat.le_trans hfirst.devices hsecond.devices, Nat.le_trans hfirst.caches hsecond.caches⟩

theorem Extends.holds_tag {before after : Store} (hextends : Extends before after) {t : TagId}
    (hheld : before.tags.Holds t) : after.tags.Holds t :=
  Nat.lt_of_lt_of_le hheld hextends.tags

theorem Extends.holds_head {before after : Store} (hextends : Extends before after) {h : HeadId}
    (hheld : before.heads.Holds h) : after.heads.Holds h :=
  Nat.lt_of_lt_of_le hheld hextends.heads

theorem Extends.holds_device {before after : Store} (hextends : Extends before after)
    {d : DeviceId} (hheld : before.devices.Holds d) : after.devices.Holds d :=
  Nat.lt_of_lt_of_le hheld hextends.devices

theorem Extends.holds_cache {before after : Store} (hextends : Extends before after)
    {c : CacheId} (hheld : before.caches.Holds c) : after.caches.Holds c :=
  Nat.lt_of_lt_of_le hheld hextends.caches

theorem extends_updateTag (t : TagId) (change : Tag → Tag) :
    Extends store (store.updateTag t change) :=
  ⟨by simp [updateTag], Nat.le_refl _, Nat.le_refl _, Nat.le_refl _⟩

theorem extends_updateHead (h : HeadId) (change : Head → Head) :
    Extends store (store.updateHead h change) :=
  ⟨Nat.le_refl _, by simp [updateHead], Nat.le_refl _, Nat.le_refl _⟩

theorem extends_updateDevice (d : DeviceId) (change : Device → Device) :
    Extends store (store.updateDevice d change) :=
  ⟨Nat.le_refl _, Nat.le_refl _, by simp [updateDevice], Nat.le_refl _⟩

theorem extends_updateCache (c : CacheId) (change : Cache → Cache) :
    Extends store (store.updateCache c change) :=
  ⟨Nat.le_refl _, Nat.le_refl _, Nat.le_refl _, by simp [updateCache]⟩

/-! ## Unlinking a tag -/

/-- A tag taken from the list of its device. -/
def leaveOwner (t : TagId) : Store :=
  match (store.tag t).device with
  | none => store
  | some d => (store.leaveDevice d t).setTagDevice t none

/-- A tag taken from the list of its device and from its head. -/
def unlinkTag (t : TagId) : Store := (store.leaveOwner t).unlinkFromHead t

theorem tag_leaveOwner (t u : TagId) :
    (store.leaveOwner t).tag u =
      if u = t then { store.tag u with device := none } else store.tag u := by
  unfold leaveOwner
  split
  · next hnone =>
    by_cases hu : u = t
    · subst hu
      rw [if_pos rfl, ← hnone]
    · rw [if_neg hu]
  · rw [setTagDevice, tag_updateTag _ (.inr rfl)]
    rfl

theorem device_leaveOwner (t : TagId) (e : DeviceId) :
    (store.leaveOwner t).device e =
      if (store.tag t).device = some e then
        { store.device e with tags := (store.device e).tags.erase t }
      else store.device e := by
  unfold leaveOwner
  split
  · next hnone => simp [hnone]
  · next d howner =>
    rw [setTagDevice, device_updateTag, leaveDevice, device_updateDevice _ (.inr rfl)]
    simp only [howner, Option.some.injEq, eq_comm]

@[simp] theorem head_leaveOwner (t : TagId) (h : HeadId) :
    (store.leaveOwner t).head h = store.head h := by
  unfold leaveOwner
  split <;> rfl

@[simp] theorem cache_leaveOwner (t : TagId) (c : CacheId) :
    (store.leaveOwner t).cache c = store.cache c := by
  unfold leaveOwner
  split <;> rfl

theorem tag_unlinkFromHead (t u : TagId) :
    (store.unlinkFromHead t).tag u =
      if u = t then { store.tag u with head := none } else store.tag u := by
  unfold unlinkFromHead
  split
  · next hnone =>
    by_cases hu : u = t
    · subst hu
      rw [if_pos rfl, ← hnone]
    · rw [if_neg hu]
  · rw [setTagHead, tag_updateTag _ (.inr rfl)]
    rfl

theorem head_unlinkFromHead (t : TagId) (h : HeadId) :
    (store.unlinkFromHead t).head h =
      if (store.tag t).head = some h then
        { store.head h with tags := (store.head h).tags.erase t }
      else store.head h := by
  unfold unlinkFromHead
  split
  · next hnone => simp [hnone]
  · next k hhead =>
    rw [setTagHead, head_updateTag, leaveHead, head_updateHead _ (.inr rfl)]
    simp only [hhead, Option.some.injEq, eq_comm]

@[simp] theorem device_unlinkFromHead (t : TagId) (d : DeviceId) :
    (store.unlinkFromHead t).device d = store.device d := by
  unfold unlinkFromHead
  split <;> rfl

@[simp] theorem cache_unlinkFromHead (t : TagId) (c : CacheId) :
    (store.unlinkFromHead t).cache c = store.cache c := by
  unfold unlinkFromHead
  split <;> rfl

theorem extends_unlinkFromHead (t : TagId) : Extends store (store.unlinkFromHead t) := by
  unfold unlinkFromHead
  split
  · exact .refl store
  · exact (extends_updateHead _ _ _).trans (extends_updateTag _ _ _)

theorem tag_unlinkTag (t u : TagId) :
    (store.unlinkTag t).tag u =
      if u = t then { store.tag u with device := none, head := none } else store.tag u := by
  rw [unlinkTag, tag_unlinkFromHead, tag_leaveOwner]
  split <;> rfl

theorem device_unlinkTag (t : TagId) (e : DeviceId) :
    (store.unlinkTag t).device e =
      if (store.tag t).device = some e then
        { store.device e with tags := (store.device e).tags.erase t }
      else store.device e := by
  rw [unlinkTag, device_unlinkFromHead, device_leaveOwner]

theorem head_unlinkTag (t : TagId) (h : HeadId) :
    (store.unlinkTag t).head h =
      if (store.tag t).head = some h then
        { store.head h with tags := (store.head h).tags.erase t }
      else store.head h := by
  rw [unlinkTag, head_unlinkFromHead, head_leaveOwner, tag_leaveOwner, if_pos rfl]

@[simp] theorem cache_unlinkTag (t : TagId) (c : CacheId) :
    (store.unlinkTag t).cache c = store.cache c := by
  rw [unlinkTag, cache_unlinkFromHead, cache_leaveOwner]

theorem extends_unlinkTag (t : TagId) : Extends store (store.unlinkTag t) := by
  have howner : Extends store (store.leaveOwner t) := by
    unfold leaveOwner
    split
    · exact .refl store
    · exact (extends_updateDevice store _ _).trans (extends_updateTag _ _ _)
  exact howner.trans (extends_unlinkFromHead _ t)

/-! ## Linking a tag -/

/-- The head of a name in a cache: the one that is there, or the one that is made next. -/
def headFor (c : CacheId) (name : String) : HeadId :=
  (store.headOf? c name).getD store.heads.next

/-- A cache with a head of a name. -/
def ensureHead (c : CacheId) (name : String) : Store :=
  match store.headOf? c name with
  | some _ => store
  | none =>
    ({ store with heads := store.heads.add ⟨name, []⟩ } : Store).registerHead c name
      store.heads.next

/-- A tag that points to the head of its name, which does not list it yet. -/
def pointToHead (c : CacheId) (t : TagId) : Store :=
  (store.ensureHead c (store.tag t).name).setTagHead t
    (some (store.headFor c (store.tag t).name))

/-- A tag linked into the head of its name. -/
def linkTag (c : CacheId) (t : TagId) : Store :=
  (store.pointToHead c t).enterHead (store.headFor c (store.tag t).name) t

@[simp] theorem tag_ensureHead (c : CacheId) (name : String) (t : TagId) :
    (store.ensureHead c name).tag t = store.tag t := by
  unfold ensureHead
  split <;> rfl

@[simp] theorem device_ensureHead (c : CacheId) (name : String) (d : DeviceId) :
    (store.ensureHead c name).device d = store.device d := by
  unfold ensureHead
  split <;> rfl

theorem head_ensureHead (c : CacheId) (name : String) (k : HeadId) :
    (store.ensureHead c name).head k =
      if store.headOf? c name = none ∧ k = store.heads.next then ⟨name, []⟩ else store.head k := by
  unfold ensureHead
  split
  · next h hfound => simp [hfound]
  · next hmissing =>
    rw [registerHead, head_updateCache]
    simp only [hmissing, true_and]
    exact Table.get_add store.heads _ k

theorem cache_ensureHead {c : CacheId} (hc : store.caches.Holds c) (name : String)
    (k : CacheId) :
    (store.ensureHead c name).cache k =
      if store.headOf? c name = none ∧ k = c then
        { store.cache k with heads := (store.cache k).heads ++ [(name, store.heads.next)] }
      else store.cache k := by
  unfold ensureHead
  split
  · next h hfound => simp [hfound]
  · next hmissing =>
    refine (cache_updateCache _ (.inl hc) k).trans ?_
    simp only [hmissing, true_and]

theorem tags_ensureHead (c : CacheId) (name : String) :
    (store.ensureHead c name).tags = store.tags := by
  unfold ensureHead
  split <;> rfl

theorem extends_ensureHead (c : CacheId) (name : String) :
    Extends store (store.ensureHead c name) := by
  unfold ensureHead
  split
  · exact .refl store
  · have hmade : Extends store { store with heads := store.heads.add ⟨name, []⟩ } :=
      ⟨Nat.le_refl _, by simp, Nat.le_refl _, Nat.le_refl _⟩
    exact hmade.trans (extends_updateCache _ _ _)

theorem holds_headFor {c : CacheId} {name : String}
    (hfound : ∀ h, store.headOf? c name = some h → store.heads.Holds h) :
    (store.ensureHead c name).heads.Holds (store.headFor c name) := by
  unfold ensureHead headFor
  split
  · next h hsome =>
    rw [hsome]
    exact hfound h hsome
  · next hnone =>
    rw [hnone]
    exact Table.holds_next_add _ _

section Link

variable {t : TagId} {c : CacheId}

theorem tag_pointToHead (ht : store.tags.Holds t) (u : TagId) :
    (store.pointToHead c t).tag u =
      if u = t then { store.tag u with head := some (store.headFor c (store.tag t).name) }
      else store.tag u := by
  rw [pointToHead, setTagHead, tag_updateTag _ (.inl ((store.tags_ensureHead c _).symm ▸ ht))]
  simp

theorem tag_linkTag (ht : store.tags.Holds t) (u : TagId) :
    (store.linkTag c t).tag u =
      if u = t then { store.tag u with head := some (store.headFor c (store.tag t).name) }
      else store.tag u :=
  tag_pointToHead store ht u

theorem extends_linkTag (c : CacheId) (t : TagId) : Extends store (store.linkTag c t) :=
  (extends_ensureHead store c _).trans
    ((extends_updateTag _ _ _).trans (extends_updateHead _ _ _))

@[simp] theorem device_linkTag (d : DeviceId) :
    (store.linkTag c t).device d = store.device d := by
  rw [linkTag, enterHead, device_updateHead, pointToHead, setTagHead, device_updateTag,
    device_ensureHead]

theorem cache_linkTag (hc : store.caches.Holds c) (k : CacheId) :
    (store.linkTag c t).cache k =
      if store.headOf? c (store.tag t).name = none ∧ k = c then
        { store.cache k with
          heads := (store.cache k).heads ++ [((store.tag t).name, store.heads.next)] }
      else store.cache k := by
  rw [linkTag, enterHead, cache_updateHead, pointToHead, setTagHead, cache_updateTag,
    cache_ensureHead _ hc]

theorem head_linkTag
    (hfound : ∀ h, store.headOf? c (store.tag t).name = some h → store.heads.Holds h)
    (k : HeadId) :
    (store.linkTag c t).head k =
      if k = store.headFor c (store.tag t).name then
        { (store.ensureHead c (store.tag t).name).head k with
          tags := ((store.ensureHead c (store.tag t).name).head k).tags ++ [t] }
      else (store.ensureHead c (store.tag t).name).head k := by
  exact head_updateHead _ (.inl (holds_headFor store hfound)) k

/-- A head that is made has no tags, and neither has the record that stands for a missing one. -/
theorem tags_head_ensureHead (name : String) (k : HeadId) :
    ((store.ensureHead c name).head k).tags = (store.head k).tags := by
  rw [head_ensureHead]
  split
  · next hnew =>
    rw [hnew.2, head_next]
    rfl
  · rfl

theorem tags_head_linkTag
    (hfound : ∀ h, store.headOf? c (store.tag t).name = some h → store.heads.Holds h)
    (k : HeadId) :
    ((store.linkTag c t).head k).tags =
      if k = store.headFor c (store.tag t).name then (store.head k).tags ++ [t]
      else (store.head k).tags := by
  rw [head_linkTag store hfound]
  split <;> simp only [tags_head_ensureHead]

end Link

/-! ## Whole operations -/

/-- A device with a new tag that is in no head. -/
def makeTag (d : DeviceId) (name value : String) : Store :=
  ({ store with tags := store.tags.add ⟨name, value, some d, none⟩ } : Store).enterDevice d
    store.tags.next

/-- A device with a new tag, linked into the index if the device is attached. -/
def appendTag (d : DeviceId) (name value : String) : Store :=
  match (store.device d).cache with
  | none => store.makeTag d name value
  | some c => (store.makeTag d name value).linkTag c store.tags.next

/-- A tag of a device set to a value. -/
def assignTag (d : DeviceId) (name value : String) (replace : Bool) : Store :=
  match store.firstTag? d name with
  | none =>
    ((store.appendTag d name value).linkAlias d name (some store.tags.next)).markDeviceChanged d
  | some first =>
    if (store.tag first).value = value then store
    else if replace then
      ((store.setTagValue first value).linkAlias d name (some first)).markDeviceChanged d
    else
      (((store.appendTag d name value).markMultiple d).linkAlias d name
        (some store.tags.next)).markDeviceChanged d

/-- Every tag of a list unlinked. -/
def unlinkTags (ts : List TagId) : Store := ts.foldl unlinkTag store

/-- The tags of a name on a device. -/
def tagsNamed (d : DeviceId) (name : String) : List TagId :=
  (store.device d).tags.filter fun t => (store.tag t).name = name

/-- A device without tags of a name. -/
def deleteNamed (d : DeviceId) (name : String) : Store :=
  (((store.unlinkTags (store.tagsNamed d name)).dropNamed d name).linkAlias d name
    none).markDeviceChanged d

/-- A tag of a device set to a value, or all tags of the name deleted. -/
def setTag (d : DeviceId) (name : String) (value : Option String) (replace : Bool) : Store :=
  match value with
  | none => store.deleteNamed d name
  | some value => store.assignTag d name value replace

/-- Those tags of a list linked that are in no head. -/
def linkMissing (c : CacheId) : List TagId → Store → Store
  | [], store => store
  | t :: rest, store =>
    linkMissing c rest (if (store.tag t).head.isSome then store else store.linkTag c t)

/-- A device that points to a cache, with its tags in the index, before the cache lists it. -/
def connect (c : CacheId) (d : DeviceId) : Store :=
  (linkMissing c (store.device d).tags store).setDeviceCache d (some c)

/-- A device that its cache lists by now. -/
def enlist (c : CacheId) (d : DeviceId) : Store := (store.enterCache c d).markChanged c

/-- A device attached to a cache, with its tags in the index. -/
def attach (c : CacheId) (d : DeviceId) : Store :=
  ((store.connect c d).enterCache c d).markChanged c

/-- A device removed from a cache, without tags. -/
def detach (c : CacheId) (d : DeviceId) : Store :=
  (((store.unlinkTags (store.device d).tags).setDeviceCache d none).leaveCache c d).markChanged c

theorem tag_makeTag (d : DeviceId) (name value : String) (u : TagId) :
    (store.makeTag d name value).tag u =
      if u = store.tags.next then ⟨name, value, some d, none⟩ else store.tag u := by
  rw [makeTag, enterDevice, tag_updateDevice]
  exact Table.get_add store.tags _ u

theorem device_makeTag {d : DeviceId} (hd : store.devices.Holds d) (name value : String)
    (e : DeviceId) :
    (store.makeTag d name value).device e =
      if e = d then { store.device e with tags := (store.device e).tags ++ [store.tags.next] }
      else store.device e :=
  device_updateDevice _ (.inl hd) e

@[simp] theorem head_makeTag (d : DeviceId) (name value : String) (h : HeadId) :
    (store.makeTag d name value).head h = store.head h := rfl

@[simp] theorem cache_makeTag (d : DeviceId) (name value : String) (c : CacheId) :
    (store.makeTag d name value).cache c = store.cache c := rfl

theorem extends_makeTag (d : DeviceId) (name value : String) :
    Extends store (store.makeTag d name value) := by
  have hmade : Extends store { store with tags := store.tags.add ⟨name, value, some d, none⟩ } :=
    ⟨by simp, Nat.le_refl _, Nat.le_refl _, Nat.le_refl _⟩
  exact hmade.trans (extends_updateDevice _ _ _)

theorem device_appendTag {d : DeviceId} (hd : store.devices.Holds d) (name value : String)
    (e : DeviceId) :
    (store.appendTag d name value).device e =
      if e = d then { store.device e with tags := (store.device e).tags ++ [store.tags.next] }
      else store.device e := by
  unfold appendTag
  split
  · exact device_makeTag store hd name value e
  · rw [device_linkTag, device_makeTag store hd]

/-- The new tag points to the head of its name if the device is attached. -/
theorem tag_appendTag (d : DeviceId) (name value : String) (u : TagId) :
    (store.appendTag d name value).tag u =
      if u = store.tags.next then
        ⟨name, value, some d, (store.device d).cache.map fun c => store.headFor c name⟩
      else store.tag u := by
  have hmade : (store.makeTag d name value).tags.Holds store.tags.next :=
    Table.holds_next_add store.tags _
  unfold appendTag
  split
  · next hnone => rw [tag_makeTag, hnone, Option.map_none]
  · next c hcache =>
    rw [tag_linkTag _ hmade, tag_makeTag, tag_makeTag, if_pos rfl, hcache, Option.map_some]
    split <;> rfl

end Store

end DeviceTags
