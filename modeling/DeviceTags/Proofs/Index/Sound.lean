import DeviceTags.Proofs.Index.Linking

/-!
# Sound stores

What holds of the links between operations: the home of every device is its cache, nothing waits, and
the devices that a cache lists point to it. Every operation leads from a sound store to a sound one,
whether it goes through or fails. That a cache also lists all devices that point to it is said
apart, since a registration that breaks off leaves one that it does not list.
-/

namespace DeviceTags.Store

/-- The links agree, and the devices of a cache point to it. -/
structure Sound (store : Store) : Prop where
  linked : store.Linked (fun d => (store.device d).cache) []
  held : ∀ d c, (store.device d).cache = some c → store.caches.Holds c
  attached : ∀ c d, d ∈ (store.cache c).devices → (store.device d).cache = some c
  attachedOnce : ∀ c, (store.cache c).devices.Nodup

/-- The cache lists every device that points to it. -/
def Registered (store : Store) (c : CacheId) : Prop :=
  ∀ d, (store.device d).cache = some c → d ∈ (store.cache c).devices

/-- The cache lists every device that points to it, up to the given one. -/
def RegisteredBut (store : Store) (c : CacheId) (d : DeviceId) : Prop :=
  ∀ e, e ≠ d → (store.device e).cache = some c → e ∈ (store.cache c).devices

/-- The second store has the links of the first one, and the same devices in the same caches. -/
structure SameIndex (before after : Store) : Prop extends SameLinks before after where
  deviceCache : ∀ d, (after.device d).cache = (before.device d).cache
  cacheDevices : ∀ c, (after.cache c).devices = (before.cache c).devices

variable {store : Store}

/-! ### What is read off -/

theorem Sound.mem_devices_iff (hsound : store.Sound) {c : CacheId}
    (hregistered : store.Registered c) {d : DeviceId} : d ∈ (store.cache c).devices ↔ (store.device d).cache = some c :=
  ⟨hsound.attached c d, hregistered d⟩

/-- A tag that is in a head is in the head of its name, in the cache where its device belongs. -/
theorem Meshed.head_of_home {home : DeviceId → Option CacheId} (hmeshed : store.Meshed home)
    {c : CacheId} {d : DeviceId} {t : TagId} (hhome : home d = some c)
    (howner : (store.tag t).device = some d) (hhead : (store.tag t).head.isSome) :
    ∃ h, store.headOf? c (store.tag t).name = some h ∧ (store.tag t).head = some h := by
  obtain ⟨h, hlink⟩ := Option.isSome_iff_exists.mp hhead
  obtain ⟨e, k, he, hk, hentry⟩ := hmeshed.homed t h hlink
  rw [howner] at he
  cases he
  rw [hhome] at hk
  cases hk
  exact ⟨h, headOf?_of_mem (hmeshed.namesOnce c) hentry, hlink⟩

/-- A tag of an attached device is in the head of its name. -/
theorem Sound.head_of_attached (hsound : store.Sound) {c : CacheId} {d : DeviceId} {t : TagId}
    (hcache : (store.device d).cache = some c) (ht : t ∈ (store.device d).tags) :
    ∃ h, store.headOf? c (store.tag t).name = some h ∧ (store.tag t).head = some h := by
  have howner := (hsound.linked.listed d t).mp ht
  have hlinked := hsound.linked.indexed t d howner (by rw [hcache]; rfl) (by simp)
  exact hsound.linked.meshed.head_of_home hcache howner hlinked

theorem Sound.isSome_head_of_cache (hsound : store.Sound) {c : CacheId} {d : DeviceId}
    (hcache : (store.device d).cache = some c) :
    ∀ t ∈ (store.device d).tags, (store.tag t).head.isSome := by
  intro t ht
  exact hsound.linked.indexed t d ((hsound.linked.listed d t).mp ht) (by rw [hcache]; rfl) (by simp)

/-- An entry of a head of a cache has the name of the head and an owner that belongs in the cache. -/
theorem Meshed.owner_of_entry {home : DeviceId → Option CacheId} (hmeshed : store.Meshed home)
    {c : CacheId} {entry : String × HeadId} (hentry : entry ∈ (store.cache c).heads) {t : TagId}
    (ht : t ∈ (store.head entry.2).tags) :
    (store.tag t).name = entry.1 ∧ ∃ d, (store.tag t).device = some d ∧ home d = some c := by
  obtain ⟨d, k, howner, hcache, hhome⟩ := hmeshed.homed t entry.2 ((hmeshed.entered _ t).mp ht)
  have hsame : k = c := hmeshed.headOfOne k c _ entry hhome hentry rfl
  rw [hsame] at hhome hcache
  refine ⟨?_, d, howner, hcache⟩
  have hname := hmeshed.headNamed c _ hhome
  rw [hmeshed.headNamed c entry hentry] at hname
  exact hname.symm

theorem Sound.owner_of_entry (hsound : store.Sound) {c : CacheId} {entry : String × HeadId}
    (hentry : entry ∈ (store.cache c).heads) {t : TagId} (ht : t ∈ (store.head entry.2).tags) :
    (store.tag t).name = entry.1 ∧ ∃ d, (store.tag t).device = some d ∧
      (store.device d).cache = some c :=
  hsound.linked.meshed.owner_of_entry hentry ht

/-- An entry of a name in a cache has that name and an owner in the cache. -/
theorem Sound.of_mem_entries (hsound : store.Sound) {c : CacheId} {name : String} {t : TagId}
    (ht : t ∈ store.entries c name) : (store.tag t).name = name ∧
      ∃ d, (store.tag t).device = some d ∧ (store.device d).cache = some c := by
  unfold entries at ht
  split at ht
  · cases ht
  · next h hfound => exact hsound.owner_of_entry (mem_heads_of_headOf? hfound) ht

/-! ### Changes that the index does not see -/

theorem SameIndex.refl (store : Store) : SameIndex store store :=
  { SameLinks.refl store with
    deviceCache := fun _ => rfl
    cacheDevices := fun _ => rfl }

theorem SameIndex.trans {first second third : Store} (hfirst : SameIndex first second)
    (hsecond : SameIndex second third) : SameIndex first third :=
  { hfirst.toSameLinks.trans hsecond.toSameLinks with
    deviceCache := fun d => (hsecond.deviceCache d).trans (hfirst.deviceCache d)
    cacheDevices := fun c => (hsecond.cacheDevices c).trans (hfirst.cacheDevices c) }

theorem Sound.of_sameIndex {after : Store} (hsound : store.Sound)
    (hsame : SameIndex store after) : after.Sound where
  linked := by
    have hlinked := hsound.linked.of_sameLinks hsame.toSameLinks
    simpa only [hsame.deviceCache] using hlinked
  held d c hcache := hsame.lasting.holds_cache (hsound.held d c (hsame.deviceCache d ▸ hcache))
  attached c d := by
    rw [hsame.cacheDevices, hsame.deviceCache]
    exact hsound.attached c d
  attachedOnce c := by
    rw [hsame.cacheDevices]
    exact hsound.attachedOnce c

theorem sameIndex_updateTag {change : Tag → Tag} (t : TagId)
    (hkeep : ∀ record, (change record).name = record.name ∧
      (change record).device = record.device ∧ (change record).head = record.head) :
    SameIndex store (store.updateTag t change) :=
  { sameLinks_updateTag t hkeep with
    deviceCache := fun _ => rfl
    cacheDevices := fun _ => rfl }

theorem sameIndex_updateDevice {change : Device → Device} (d : DeviceId)
    (hkeep : ∀ record, (change record).tags = record.tags ∧
      (change record).cache = record.cache) :
    SameIndex store (store.updateDevice d change) :=
  { sameLinks_updateDevice d fun record => (hkeep record).1 with
    deviceCache :=
      Table.field_update Device.cache (fun record => (hkeep record).2) store.devices d
    cacheDevices := fun _ => rfl }

theorem sameIndex_updateCache {change : Cache → Cache} (c : CacheId)
    (hkeep : ∀ record, (change record).heads = record.heads ∧
      (change record).devices = record.devices) :
    SameIndex store (store.updateCache c change) :=
  { sameLinks_updateCache c fun record => (hkeep record).1 with
    deviceCache := fun _ => rfl
    cacheDevices :=
      Table.field_update Cache.devices (fun record => (hkeep record).2) store.caches c }

theorem sameIndex_linkAlias (d : DeviceId) (name : String) (t : Option TagId) :
    SameIndex store (store.linkAlias d name t) := by
  unfold linkAlias
  split
  · exact .refl store
  · split
    · exact .refl store
    · exact sameIndex_updateDevice d fun _ => ⟨rfl, rfl⟩

theorem sameIndex_markDeviceChanged (d : DeviceId) :
    SameIndex store (store.markDeviceChanged d) := by
  unfold markDeviceChanged
  split
  · exact .refl store
  · exact sameIndex_updateCache _ fun _ => ⟨rfl, rfl⟩

/-- What setting a tag does beside the tag itself is not in the index. -/
theorem sameIndex_finish (d : DeviceId) (name : String) (t : Option TagId) :
    SameIndex store ((store.linkAlias d name t).markDeviceChanged d) :=
  (sameIndex_linkAlias d name t).trans (sameIndex_markDeviceChanged d)

theorem sameIndex_setTagValue (t : TagId) (value : String) :
    SameIndex store (store.setTagValue t value) :=
  sameIndex_updateTag t fun _ => ⟨rfl, rfl, rfl⟩

theorem sameIndex_markMultiple (d : DeviceId) : SameIndex store (store.markMultiple d) :=
  sameIndex_updateDevice d fun _ => ⟨rfl, rfl⟩

theorem sameIndex_setPriority (d : DeviceId) (priority : Priority) :
    SameIndex store (store.setPriority d priority) :=
  sameIndex_updateDevice d fun _ => ⟨rfl, rfl⟩

theorem sameIndex_markFound (d : DeviceId) : SameIndex store (store.markFound d) :=
  sameIndex_updateDevice d fun _ => ⟨rfl, rfl⟩

theorem sameIndex_markGone (d : DeviceId) : SameIndex store (store.markGone d) :=
  sameIndex_updateDevice d fun _ => ⟨rfl, rfl⟩

theorem sameIndex_markChanged (c : CacheId) : SameIndex store (store.markChanged c) :=
  sameIndex_updateCache c fun _ => ⟨rfl, rfl⟩

theorem sameIndex_clearChanged (c : CacheId) : SameIndex store (store.clearChanged c) :=
  sameIndex_updateCache c fun _ => ⟨rfl, rfl⟩

theorem sameIndex_markProbed (c : CacheId) : SameIndex store (store.markProbed c) :=
  sameIndex_updateCache c fun _ => ⟨rfl, rfl⟩

/-- A new device has no tags and belongs nowhere, like the record that stands for a missing one. -/
theorem sameIndex_addDevice (name : String) (priority : Priority) (flags : DeviceFlags) :
    SameIndex store
      { store with devices := store.devices.add { name, priority, flags } } where
  deviceTags d := by
    rw [device, Table.get_add]
    split
    · next hd =>
      rw [hd, device_next]
      rfl
    · rfl
  tagDevice _ := rfl
  tagHead _ := rfl
  tagName _ _ := rfl
  headTags _ := rfl
  headName _ _ := rfl
  cacheHeads _ := rfl
  lasting := ⟨Nat.le_refl _, Nat.le_refl _, by simp, Nat.le_refl _⟩
  deviceCache d := by
    rw [device, Table.get_add]
    split
    · next hd =>
      rw [hd, device_next]
      rfl
    · rfl
  cacheDevices _ := rfl

/-- A new cache is empty, like the record that stands for a missing one. -/
theorem sameIndex_addCache (prober : Option Prober) (verifier : Option Verifier) :
    SameIndex store { store with caches := store.caches.add { prober, verifier } } where
  deviceTags _ := rfl
  tagDevice _ := rfl
  tagHead _ := rfl
  tagName _ _ := rfl
  headTags _ := rfl
  headName _ _ := rfl
  cacheHeads c := by
    rw [cache, Table.get_add]
    split
    · next hc =>
      rw [hc, cache_next]
      rfl
    · rfl
  lasting := ⟨Nat.le_refl _, Nat.le_refl _, Nat.le_refl _, by simp⟩
  deviceCache _ := rfl
  cacheDevices c := by
    rw [cache, Table.get_add]
    split
    · next hc =>
      rw [hc, cache_next]
      rfl
    · rfl

/-! ### Making a tag -/

theorem Linked.mem_head_ne_next {home : DeviceId → Option CacheId} {waiting : List TagId}
    (hlinked : store.Linked home waiting) {h : HeadId} {t : TagId}
    (hmem : t ∈ (store.head h).tags) : t ≠ store.tags.next := by
  obtain ⟨d, c, howner, -⟩ := hlinked.homed t h ((hlinked.entered h t).mp hmem)
  exact Table.ne_next_of_holds (holds_tag_of_device howner)

theorem Linked.mem_device_ne_next {home : DeviceId → Option CacheId} {waiting : List TagId}
    (hlinked : store.Linked home waiting) {d : DeviceId} {t : TagId}
    (hmem : t ∈ (store.device d).tags) : t ≠ store.tags.next :=
  Table.ne_next_of_holds (holds_tag_of_device ((hlinked.listed d t).mp hmem))

/-- A new tag waits to be linked. -/
theorem Linked.makeTag {home : DeviceId → Option CacheId} {waiting : List TagId}
    (hlinked : store.Linked home waiting) {d : DeviceId} (hd : store.devices.Holds d)
    (name value : String) :
    (store.makeTag d name value).Linked home (store.tags.next :: waiting) := by
  have hunlisted : ∀ e, store.tags.next ∉ (store.device e).tags :=
    fun e hmem => hlinked.mem_device_ne_next hmem rfl
  have hold : ∀ u, u ≠ store.tags.next → (store.makeTag d name value).tag u = store.tag u := by
    intro u hu
    rw [tag_makeTag, if_neg hu]
  have hnew : (store.makeTag d name value).tag store.tags.next = ⟨name, value, some d, none⟩ := by
    rw [tag_makeTag, if_pos rfl]
  constructor
  case listed =>
    intro e u
    rw [device_makeTag store hd]
    by_cases hu : u = store.tags.next
    · rw [hu, hnew]
      by_cases he : e = d
      · simp [he]
      · simp [he, Ne.symm he, hunlisted]
    · rw [hold u hu, ← hlinked.listed]
      split <;> simp [hu]
  case listedInOrder =>
    intro e
    rw [device_makeTag store hd]
    split
    · rw [List.pairwise_append]
      refine ⟨hlinked.listedInOrder e, List.pairwise_singleton _ _, ?_⟩
      intro u hu v hv
      rw [List.mem_singleton] at hv
      rw [hv]
      exact holds_tag_of_device ((hlinked.listed e u).mp hu)
    · exact hlinked.listedInOrder e
  case entered =>
    intro h u
    rw [head_makeTag, hlinked.entered]
    by_cases hu : u = store.tags.next
    · rw [hu, hnew, tag_next]
      rfl
    · rw [hold u hu]
  case enteredInOrder =>
    intro h
    rw [head_makeTag]
    refine (hlinked.enteredInOrder h).imp_of_mem fun ha hb hlt => ?_
    rw [hold _ (hlinked.mem_head_ne_next ha), hold _ (hlinked.mem_head_ne_next hb)]
    exact hlt
  case namesOnce => exact hlinked.namesOnce
  case headHeld => exact hlinked.headHeld
  case headNamed => exact hlinked.headNamed
  case headOfOne => exact hlinked.headOfOne
  case homed =>
    intro u h hhead
    by_cases hu : u = store.tags.next
    · rw [hu, hnew] at hhead
      cases hhead
    · rw [hold u hu] at hhead ⊢
      exact hlinked.homed u h hhead
  case indexed =>
    intro u e howner hhome hwaits
    have hu : u ≠ store.tags.next := List.ne_of_not_mem_cons hwaits
    rw [hold u hu] at howner ⊢
    exact hlinked.indexed u e howner hhome (List.not_mem_of_not_mem_cons hwaits)
  case waitingFree =>
    intro u hu
    by_cases hnext : u = store.tags.next
    · rw [hnext, hnew]
    · rw [hold u hnext]
      exact hlinked.waitingFree u (List.mem_of_ne_of_mem hnext hu)

/-- A tag whose device belongs nowhere need not wait. -/
theorem Linked.settle {home : DeviceId → Option CacheId} {t : TagId} {waiting : List TagId}
    (hlinked : store.Linked home (t :: waiting))
    (hnowhere : ∀ d, (store.tag t).device = some d → home d = none) :
    store.Linked home waiting :=
  { hlinked with
    indexed := by
      intro u d howner hhome hwaits
      by_cases hu : u = t
      · rw [hnowhere d (hu ▸ howner)] at hhome
        cases hhome
      · exact hlinked.indexed u d howner hhome (List.not_mem_cons_of_ne_of_not_mem hu hwaits)
    waitingFree := fun u hu => hlinked.waitingFree u (List.mem_cons_of_mem t hu) }

/-- A new tag is linked if its device belongs in a cache, and so never waits. -/
theorem Linked.appendTag {home : DeviceId → Option CacheId} {waiting : List TagId}
    (hlinked : store.Linked home waiting) {d : DeviceId} (hd : store.devices.Holds d)
    (hhome : home d = (store.device d).cache)
    (hheld : ∀ c, (store.device d).cache = some c → store.caches.Holds c)
    (hold : ∀ t ∈ waiting, store.tags.Holds t) (name value : String) :
    (store.appendTag d name value).Linked home waiting := by
  have hmade := hlinked.makeTag hd name value
  have hnext : ((store.makeTag d name value).tag store.tags.next).device = some d := by
    rw [tag_makeTag, if_pos rfl]
  unfold Store.appendTag
  split
  · next hnone =>
    refine hmade.settle fun e howner => ?_
    rw [hnext] at howner
    cases howner
    rw [hhome, hnone]
  · next c hcache =>
    have hnew : store.tags.next ∉ waiting := fun hmem => Table.not_holds_next _ (hold _ hmem)
    refine hmade.linkTag (hheld c hcache) hnext (hhome.trans hcache) hnew fun u howner hwaits => ?_
    have hu : u ≠ store.tags.next := List.ne_of_not_mem_cons hwaits
    rw [tag_makeTag, if_neg hu] at howner
    exact holds_tag_of_device howner

/-! ### The same devices in the same caches -/

/-- No device joins or leaves a cache. -/
structure SameMembers (before after : Store) : Prop where
  deviceCache : ∀ d, (after.device d).cache = (before.device d).cache
  cacheDevices : ∀ c, (after.cache c).devices = (before.cache c).devices
  lasting : Extends before after

theorem SameMembers.refl (store : Store) : SameMembers store store :=
  ⟨fun _ => rfl, fun _ => rfl, .refl store⟩

theorem SameMembers.trans {first second third : Store} (hfirst : SameMembers first second)
    (hsecond : SameMembers second third) : SameMembers first third where
  deviceCache d := (hsecond.deviceCache d).trans (hfirst.deviceCache d)
  cacheDevices c := (hsecond.cacheDevices c).trans (hfirst.cacheDevices c)
  lasting := hfirst.lasting.trans hsecond.lasting

theorem SameIndex.sameMembers {before after : Store} (hsame : SameIndex before after) :
    SameMembers before after := { hsame with }

theorem SameMembers.registered {after : Store} {c : CacheId} (hsame : SameMembers store after)
    (hregistered : store.Registered c) : after.Registered c := by
  intro d
  rw [hsame.deviceCache, hsame.cacheDevices]
  exact hregistered d

/-- Where the same devices are in the same caches, a store with links that agree is sound again. -/
theorem Sound.of_sameMembers {after : Store} (hsound : store.Sound)
    (hsame : SameMembers store after)
    (hlinked : after.Linked (fun d => (store.device d).cache) []) : after.Sound where
  linked := by
    simp only [hsame.deviceCache]
    exact hlinked
  held d c hcache := hsame.lasting.holds_cache (hsound.held d c (hsame.deviceCache d ▸ hcache))
  attached c d := by
    rw [hsame.cacheDevices, hsame.deviceCache]
    exact hsound.attached c d
  attachedOnce c := by
    rw [hsame.cacheDevices]
    exact hsound.attachedOnce c

theorem sameMembers_appendTag {d : DeviceId} (hd : store.devices.Holds d)
    (hheld : ∀ c, (store.device d).cache = some c → store.caches.Holds c) (name value : String) :
    SameMembers store (store.appendTag d name value) where
  deviceCache e := by
    rw [device_appendTag store hd]
    split <;> rfl
  cacheDevices k := by
    unfold Store.appendTag
    split
    · rfl
    · next c hcache =>
      have hc : (store.makeTag d name value).caches.Holds c := hheld c hcache
      rw [devices_cache_linkTag hc, cache_makeTag]
  lasting := by
    unfold Store.appendTag
    split
    · exact extends_makeTag store d name value
    · exact (extends_makeTag store d name value).trans (extends_linkTag _ _ _)

theorem Sound.appendTag (hsound : store.Sound) {d : DeviceId} (hd : store.devices.Holds d)
    (name value : String) : (store.appendTag d name value).Sound := by
  refine hsound.of_sameMembers (sameMembers_appendTag hd (hsound.held d) name value) ?_
  exact hsound.linked.appendTag hd rfl (hsound.held d) (by simp) name value

end DeviceTags.Store
