import DeviceTags.Proofs.Store.Effect
import Mathlib.Data.List.Sort

/-!
# The two sides of the index

`Linked` says that the list of a device and the links of its tags agree, and so do the list of a head
and the links of its entries. It is said with a `home` for every device, the cache whose heads its
tags belong in, and with the tags that are still `waiting` to be linked. That covers the moments at
which a device is on its way into a cache; between operations the home of a device is its cache and
nothing waits. One field carries the order: of two entries of one head that belong to one device, the
one that was made first stands first. `Meshed` is what is left of it where the order does not matter.
-/

namespace DeviceTags.Store

/-- The lists and the links of the two sides agree. -/
structure Linked (store : Store) (home : DeviceId → Option CacheId) (waiting : List TagId) :
    Prop where
  listed : ∀ d t, t ∈ (store.device d).tags ↔ (store.tag t).device = some d
  listedInOrder : ∀ d, (store.device d).tags.Pairwise fun t u => t.index < u.index
  entered : ∀ h t, t ∈ (store.head h).tags ↔ (store.tag t).head = some h
  enteredInOrder : ∀ h, (store.head h).tags.Pairwise fun t u =>
    (store.tag t).device = (store.tag u).device → t.index < u.index
  namesOnce : ∀ c, (store.headNames c).Nodup
  headHeld : ∀ c entry, entry ∈ (store.cache c).heads → store.heads.Holds entry.2
  headNamed : ∀ c entry, entry ∈ (store.cache c).heads → (store.head entry.2).name = entry.1
  headOfOne : ∀ c k entry other, entry ∈ (store.cache c).heads → other ∈ (store.cache k).heads →
    entry.2 = other.2 → c = k
  homed : ∀ t h, (store.tag t).head = some h →
    ∃ d c, (store.tag t).device = some d ∧ home d = some c ∧
      ((store.tag t).name, h) ∈ (store.cache c).heads
  indexed : ∀ t d, (store.tag t).device = some d → (home d).isSome → t ∉ waiting →
    (store.tag t).head.isSome
  waitingFree : ∀ t ∈ waiting, (store.tag t).head = none

/-- The lists and the links of the two sides agree, in whatever order the entries of a head stand. -/
structure Meshed (store : Store) (home : DeviceId → Option CacheId) : Prop where
  listed : ∀ d t, t ∈ (store.device d).tags ↔ (store.tag t).device = some d
  entered : ∀ h t, t ∈ (store.head h).tags ↔ (store.tag t).head = some h
  enteredOnce : ∀ h, (store.head h).tags.Nodup
  namesOnce : ∀ c, (store.headNames c).Nodup
  headHeld : ∀ c entry, entry ∈ (store.cache c).heads → store.heads.Holds entry.2
  headNamed : ∀ c entry, entry ∈ (store.cache c).heads → (store.head entry.2).name = entry.1
  headOfOne : ∀ c k entry other, entry ∈ (store.cache c).heads → other ∈ (store.cache k).heads →
    entry.2 = other.2 → c = k
  homed : ∀ t h, (store.tag t).head = some h →
    ∃ d c, (store.tag t).device = some d ∧ home d = some c ∧
      ((store.tag t).name, h) ∈ (store.cache c).heads

/-- The tags in the index of a cache under a name. -/
def entries (store : Store) (c : CacheId) (name : String) : List TagId :=
  match store.headOf? c name with
  | none => []
  | some h => (store.head h).tags

variable {store : Store} {home : DeviceId → Option CacheId} {waiting : List TagId}

/-! ### The order of making -/

instance : Std.Irrefl fun t u : TagId => t.index < u.index := ⟨fun _ => Nat.lt_irrefl _⟩

instance : Std.Antisymm fun t u : TagId => t.index < u.index :=
  ⟨fun _ _ hlt hgt => absurd hgt (Nat.lt_asymm hlt)⟩

/-! ### What is read off -/

theorem Linked.listedOnce (hlinked : store.Linked home waiting) (d : DeviceId) :
    (store.device d).tags.Nodup :=
  (hlinked.listedInOrder d).imp fun hlt heq => by rw [heq] at hlt; exact Nat.lt_irrefl _ hlt

theorem Linked.enteredOnce (hlinked : store.Linked home waiting) (h : HeadId) :
    (store.head h).tags.Nodup :=
  (hlinked.enteredInOrder h).imp fun hlt heq => by
    subst heq
    exact Nat.lt_irrefl _ (hlt rfl)

theorem Linked.meshed (hlinked : store.Linked home waiting) : store.Meshed home :=
  { hlinked with enteredOnce := hlinked.enteredOnce }

theorem holds_tag_of_device {t : TagId} {d : DeviceId} (howner : (store.tag t).device = some d) :
    store.tags.Holds t := by
  by_contra hmissing
  rw [tag, Table.get_of_not_holds hmissing] at howner
  cases howner

theorem holds_device_of_cache {d : DeviceId} {c : CacheId}
    (hcache : (store.device d).cache = some c) : store.devices.Holds d := by
  by_contra hmissing
  rw [device, Table.get_of_not_holds hmissing] at hcache
  cases hcache

theorem holds_cache_of_mem {c : CacheId} {d : DeviceId} (hmem : d ∈ (store.cache c).devices) :
    store.caches.Holds c := by
  by_contra hmissing
  rw [cache, Table.get_of_not_holds hmissing] at hmem
  cases hmem

/-- A name with a head is among the heads of the cache. -/
theorem mem_heads_of_headOf? {c : CacheId} {name : String} {h : HeadId}
    (hfound : store.headOf? c name = some h) : (name, h) ∈ (store.cache c).heads := by
  rw [headOf?, List.lookup_eq_some_iff] at hfound
  obtain ⟨front, back, hheads, -⟩ := hfound
  rw [hheads]
  exact List.mem_append_right _ List.mem_cons_self

theorem not_mem_headNames_of_headOf? {c : CacheId} {name : String}
    (hmissing : store.headOf? c name = none) : name ∉ store.headNames c := by
  rw [headOf?, List.lookup_eq_none_iff] at hmissing
  intro hmem
  obtain ⟨entry, hentry, rfl⟩ := List.mem_map.mp hmem
  simpa using hmissing entry hentry

/-- Where every name stands once, an entry of the heads is found under its name. -/
theorem headOf?_of_mem {c : CacheId} {name : String} {h : HeadId}
    (honce : (store.headNames c).Nodup) (hmem : (name, h) ∈ (store.cache c).heads) :
    store.headOf? c name = some h := by
  obtain ⟨front, back, hheads⟩ := List.append_of_mem hmem
  rw [headOf?, List.lookup_eq_some_iff]
  refine ⟨front, back, hheads, fun entry hentry => ?_⟩
  rw [headNames, hheads, List.map_append, List.nodup_append] at honce
  have hne := honce.2.2 entry.1 (List.mem_map_of_mem hentry) name (by simp)
  simpa using Ne.symm hne

/-! ### Stores with the same links -/

/-- The second store has the links of the first one. Tags that nothing owns may be named as they
like. -/
structure SameLinks (before after : Store) : Prop where
  deviceTags : ∀ d, (after.device d).tags = (before.device d).tags
  tagDevice : ∀ t, (after.tag t).device = (before.tag t).device
  tagHead : ∀ t, (after.tag t).head = (before.tag t).head
  tagName : ∀ t, (before.tag t).device.isSome → (after.tag t).name = (before.tag t).name
  headTags : ∀ h, (after.head h).tags = (before.head h).tags
  headName : ∀ h, before.heads.Holds h → (after.head h).name = (before.head h).name
  cacheHeads : ∀ c, (after.cache c).heads = (before.cache c).heads
  lasting : Extends before after

theorem SameLinks.refl (store : Store) : SameLinks store store where
  deviceTags _ := rfl
  tagDevice _ := rfl
  tagHead _ := rfl
  tagName _ _ := rfl
  headTags _ := rfl
  headName _ _ := rfl
  cacheHeads _ := rfl
  lasting := .refl store

theorem SameLinks.trans {first second third : Store} (hfirst : SameLinks first second)
    (hsecond : SameLinks second third) : SameLinks first third where
  deviceTags d := (hsecond.deviceTags d).trans (hfirst.deviceTags d)
  tagDevice t := (hsecond.tagDevice t).trans (hfirst.tagDevice t)
  tagHead t := (hsecond.tagHead t).trans (hfirst.tagHead t)
  tagName t howner :=
    (hsecond.tagName t ((hfirst.tagDevice t).symm ▸ howner)).trans (hfirst.tagName t howner)
  headTags h := (hsecond.headTags h).trans (hfirst.headTags h)
  headName h hheld :=
    (hsecond.headName h (hfirst.lasting.holds_head hheld)).trans (hfirst.headName h hheld)
  cacheHeads c := (hsecond.cacheHeads c).trans (hfirst.cacheHeads c)
  lasting := hfirst.lasting.trans hsecond.lasting

theorem sameLinks_updateTag {change : Tag → Tag} (t : TagId)
    (hkeep : ∀ record, (change record).name = record.name ∧
      (change record).device = record.device ∧ (change record).head = record.head) :
    SameLinks store (store.updateTag t change) where
  deviceTags _ := rfl
  tagDevice := field_updateTag store Tag.device (fun record => (hkeep record).2.1) t
  tagHead := field_updateTag store Tag.head (fun record => (hkeep record).2.2) t
  tagName u _ := field_updateTag store Tag.name (fun record => (hkeep record).1) t u
  headTags _ := rfl
  headName _ _ := rfl
  cacheHeads _ := rfl
  lasting := extends_updateTag store t change

theorem sameLinks_updateDevice {change : Device → Device} (d : DeviceId)
    (hkeep : ∀ record, (change record).tags = record.tags) :
    SameLinks store (store.updateDevice d change) where
  deviceTags := Table.field_update Device.tags hkeep store.devices d
  tagDevice _ := rfl
  tagHead _ := rfl
  tagName _ _ := rfl
  headTags _ := rfl
  headName _ _ := rfl
  cacheHeads _ := rfl
  lasting := extends_updateDevice store d change

theorem sameLinks_updateCache {change : Cache → Cache} (c : CacheId)
    (hkeep : ∀ record, (change record).heads = record.heads) :
    SameLinks store (store.updateCache c change) where
  deviceTags _ := rfl
  tagDevice _ := rfl
  tagHead _ := rfl
  tagName _ _ := rfl
  headTags _ := rfl
  headName _ _ := rfl
  cacheHeads := Table.field_update Cache.heads hkeep store.caches c
  lasting := extends_updateCache store c change

theorem Meshed.of_sameLinks {after : Store} (hmeshed : store.Meshed home)
    (hsame : SameLinks store after) : after.Meshed home where
  listed d t := by rw [hsame.deviceTags, hsame.tagDevice, hmeshed.listed]
  entered h t := by rw [hsame.headTags, hsame.tagHead, hmeshed.entered]
  enteredOnce h := by
    rw [hsame.headTags]
    exact hmeshed.enteredOnce h
  namesOnce c := by
    rw [headNames, hsame.cacheHeads]
    exact hmeshed.namesOnce c
  headHeld c entry hentry :=
    hsame.lasting.holds_head (hmeshed.headHeld c entry (hsame.cacheHeads c ▸ hentry))
  headNamed c entry hentry := by
    rw [hsame.cacheHeads] at hentry
    rw [hsame.headName _ (hmeshed.headHeld c entry hentry), hmeshed.headNamed c entry hentry]
  headOfOne c k entry other hentry hother := by
    rw [hsame.cacheHeads] at hentry hother
    exact hmeshed.headOfOne c k entry other hentry hother
  homed t h hhead := by
    rw [hsame.tagHead] at hhead
    obtain ⟨d, c, howner, hhome, hentry⟩ := hmeshed.homed t h hhead
    refine ⟨d, c, (hsame.tagDevice t).trans howner, hhome, ?_⟩
    rw [hsame.tagName t (by rw [howner]; rfl), hsame.cacheHeads]
    exact hentry

theorem Linked.of_sameLinks {after : Store} (hlinked : store.Linked home waiting)
    (hsame : SameLinks store after) : after.Linked home waiting :=
  { hlinked.meshed.of_sameLinks hsame with
    listedInOrder := by
      intro d
      rw [hsame.deviceTags]
      exact hlinked.listedInOrder d
    enteredInOrder := by
      intro h
      simp only [hsame.headTags, hsame.tagDevice]
      exact hlinked.enteredInOrder h
    indexed := by
      intro t d howner hhome hwaiting
      rw [hsame.tagDevice] at howner
      rw [hsame.tagHead]
      exact hlinked.indexed t d howner hhome hwaiting
    waitingFree := fun t ht => (hsame.tagHead t).trans (hlinked.waitingFree t ht) }

/-- Where a device without tags belongs makes no difference. -/
theorem Linked.rehome {other : DeviceId → Option CacheId} (hlinked : store.Linked home waiting)
    (hsame : ∀ t d, (store.tag t).device = some d → other d = home d) :
    store.Linked other waiting :=
  { hlinked with
    homed := by
      intro t h hhead
      obtain ⟨d, c, howner, hhome, hentry⟩ := hlinked.homed t h hhead
      exact ⟨d, c, howner, (hsame t d howner).trans hhome, hentry⟩
    indexed := by
      intro t d howner hhome
      rw [hsame t d howner] at hhome
      exact hlinked.indexed t d howner hhome }

/-! ### Unlinking a tag -/

theorem Linked.not_mem_head_of_waiting (hlinked : store.Linked home waiting) {t : TagId}
    (ht : t ∈ waiting) (h : HeadId) : t ∉ (store.head h).tags := by
  rw [hlinked.entered, hlinked.waitingFree t ht]
  simp

/-- The lists of heads lose the tag and nothing else. -/
theorem Linked.sublist_unlinkTag (hlinked : store.Linked home waiting) (t : TagId) (h : HeadId) :
    ((store.unlinkTag t).head h).tags.Sublist (store.head h).tags ∧
      t ∉ ((store.unlinkTag t).head h).tags := by
  rw [head_unlinkTag]
  split
  · exact ⟨List.erase_sublist, fun hmem => ((hlinked.enteredOnce h).mem_erase_iff.mp hmem).1 rfl⟩
  · next hhead => exact ⟨List.Sublist.refl _, fun hmem => hhead ((hlinked.entered h t).mp hmem)⟩

/-- Taking a tag out of both lists keeps everything else as it is linked. -/
theorem Linked.unlinkTag (hlinked : store.Linked home waiting) (t : TagId) :
    (store.unlinkTag t).Linked home waiting where
  listed d u := by
    rw [device_unlinkTag, tag_unlinkTag]
    by_cases hu : u = t
    · subst hu
      by_cases howner : (store.tag u).device = some d
      · simp [howner, (hlinked.listedOnce d).mem_erase_iff]
      · simp [howner, hlinked.listed]
    · by_cases howner : (store.tag t).device = some d
      · simp [howner, hu, List.mem_erase_of_ne hu, hlinked.listed]
      · simp [howner, hu, hlinked.listed]
  listedInOrder d := by
    rw [device_unlinkTag]
    split
    · exact (hlinked.listedInOrder d).sublist List.erase_sublist
    · exact hlinked.listedInOrder d
  entered h u := by
    rw [head_unlinkTag, tag_unlinkTag]
    by_cases hu : u = t
    · subst hu
      by_cases hhead : (store.tag u).head = some h
      · simp [hhead, (hlinked.enteredOnce h).mem_erase_iff]
      · simp [hhead, hlinked.entered]
    · by_cases hhead : (store.tag t).head = some h
      · simp [hhead, hu, List.mem_erase_of_ne hu, hlinked.entered]
      · simp [hhead, hu, hlinked.entered]
  enteredInOrder h := by
    obtain ⟨hsub, hgone⟩ := hlinked.sublist_unlinkTag t h
    refine ((hlinked.enteredInOrder h).sublist hsub).imp_of_mem fun ha hb hlt => ?_
    rw [tag_unlinkTag, tag_unlinkTag, if_neg (ne_of_mem_of_not_mem ha hgone),
      if_neg (ne_of_mem_of_not_mem hb hgone)]
    exact hlt
  namesOnce c := by
    rw [headNames, cache_unlinkTag]
    exact hlinked.namesOnce c
  headHeld c entry hentry := by
    rw [cache_unlinkTag] at hentry
    exact (extends_unlinkTag store t).holds_head (hlinked.headHeld c entry hentry)
  headNamed c entry hentry := by
    rw [cache_unlinkTag] at hentry
    rw [head_unlinkTag, ← hlinked.headNamed c entry hentry]
    split <;> rfl
  headOfOne c k entry other hentry hother := by
    rw [cache_unlinkTag] at hentry hother
    exact hlinked.headOfOne c k entry other hentry hother
  homed u h hhead := by
    rw [tag_unlinkTag] at hhead
    by_cases hu : u = t
    · simp [hu] at hhead
    · rw [if_neg hu] at hhead
      rw [tag_unlinkTag, if_neg hu]
      simpa only [cache_unlinkTag] using hlinked.homed u h hhead
  indexed u d howner hhome hwaiting := by
    rw [tag_unlinkTag] at howner ⊢
    by_cases hu : u = t
    · simp [hu] at howner
    · rw [if_neg hu] at howner ⊢
      exact hlinked.indexed u d howner hhome hwaiting
  waitingFree u hu := by
    rw [tag_unlinkTag]
    split
    · rfl
    · exact hlinked.waitingFree u hu

end DeviceTags.Store
