import DeviceTags.Proofs.Index.Membership

/-!
# What the entries of an index show

A lookup sees of an entry the device that owns it and its value, of a device its name and priority,
and of a cache the tag names that it has heads for. Tagging, attaching and probing are described by
what they change of this; changes of anything else are unseen.
-/

namespace DeviceTags

namespace Store

/-- The devices of a cache, each by name and priority. -/
def members (store : Store) (c : CacheId) : List (String × Priority) :=
  (store.cache c).devices.map fun d => ((store.device d).name, (store.device d).priority)

def ownerName (store : Store) (t : TagId) : Option String :=
  (store.tag t).device.map fun d => (store.device d).name

/-- An entry by the name of its owner and its value. -/
def shown (store : Store) (t : TagId) : Option String × String :=
  (store.ownerName t, (store.tag t).value)

/-- The entries of a name as they show. -/
def shownEntries (store : Store) (c : CacheId) (name : String) : List (Option String × String) :=
  (store.entries c name).map store.shown

/-- A new device of a name in a cache. -/
def enroll (store : Store) (c : CacheId) (name : String) : Store :=
  ({ store with devices := store.devices.add { name } } : Store).attach c store.devices.next

/-- The second store shows what the first one shows. -/
structure Unseen (before after : Store) : Prop extends SameIndex before after where
  deviceName : ∀ d, (after.device d).name = (before.device d).name
  devicePriority : ∀ d, (after.device d).priority = (before.device d).priority
  tagValue : ∀ t, (after.tag t).value = (before.tag t).value

variable {store before after : Store} {c : CacheId} {d : DeviceId} {t : TagId} {name : String}

/-! ## Changes that are not seen -/

theorem Unseen.refl (store : Store) : Unseen store store :=
  { SameIndex.refl store with
    deviceName := fun _ => rfl
    devicePriority := fun _ => rfl
    tagValue := fun _ => rfl }

theorem Unseen.trans {third : Store} (hfirst : Unseen before after) (hsecond : Unseen after third) :
    Unseen before third :=
  { hfirst.toSameIndex.trans hsecond.toSameIndex with
    deviceName := fun d => (hsecond.deviceName d).trans (hfirst.deviceName d)
    devicePriority := fun d => (hsecond.devicePriority d).trans (hfirst.devicePriority d)
    tagValue := fun t => (hsecond.tagValue t).trans (hfirst.tagValue t) }

theorem unseen_updateDevice {change : Device → Device} (d : DeviceId)
    (hkeep : ∀ record, (change record).name = record.name ∧
      (change record).priority = record.priority ∧ (change record).tags = record.tags ∧
      (change record).cache = record.cache) :
    Unseen store (store.updateDevice d change) :=
  { sameIndex_updateDevice d fun record => (hkeep record).2.2 with
    deviceName := Table.field_update Device.name (fun record => (hkeep record).1) store.devices d
    devicePriority :=
      Table.field_update Device.priority (fun record => (hkeep record).2.1) store.devices d
    tagValue := fun _ => rfl }

theorem unseen_updateCache {change : Cache → Cache} (c : CacheId)
    (hkeep : ∀ record, (change record).heads = record.heads ∧
      (change record).devices = record.devices) :
    Unseen store (store.updateCache c change) :=
  { sameIndex_updateCache c hkeep with
    deviceName := fun _ => rfl
    devicePriority := fun _ => rfl
    tagValue := fun _ => rfl }

theorem unseen_linkAlias (d : DeviceId) (name : String) (t : Option TagId) :
    Unseen store (store.linkAlias d name t) := by
  unfold linkAlias
  split
  · exact .refl store
  · split
    · exact .refl store
    · exact unseen_updateDevice d fun _ => ⟨rfl, rfl, rfl, rfl⟩

theorem unseen_markDeviceChanged (d : DeviceId) : Unseen store (store.markDeviceChanged d) := by
  unfold markDeviceChanged
  split
  · exact .refl store
  · exact unseen_updateCache _ fun _ => ⟨rfl, rfl⟩

/-- What setting a tag does beside the tag itself. -/
theorem unseen_finish (d : DeviceId) (name : String) (t : Option TagId) :
    Unseen store ((store.linkAlias d name t).markDeviceChanged d) :=
  (unseen_linkAlias d name t).trans (unseen_markDeviceChanged d)

theorem unseen_markProbed (c : CacheId) : Unseen store (store.markProbed c) :=
  unseen_updateCache c fun _ => ⟨rfl, rfl⟩

theorem SameLinks.headOf? (hsame : SameLinks before after) (c : CacheId) (name : String) :
    after.headOf? c name = before.headOf? c name := by
  rw [Store.headOf?, Store.headOf?, hsame.cacheHeads]

theorem SameLinks.headNames (hsame : SameLinks before after) (c : CacheId) :
    after.headNames c = before.headNames c := by
  rw [Store.headNames, Store.headNames, hsame.cacheHeads]

theorem SameLinks.entries (hsame : SameLinks before after) (c : CacheId) (name : String) :
    after.entries c name = before.entries c name := by
  unfold Store.entries
  rw [hsame.headOf?]
  split
  · rfl
  · exact hsame.headTags _

theorem Unseen.members (hunseen : Unseen before after) (c : CacheId) :
    after.members c = before.members c := by
  simp only [Store.members, hunseen.cacheDevices, hunseen.deviceName, hunseen.devicePriority]

/-- Where the links stay, the entries show the same if each of them does. -/
theorem SameLinks.shownEntries (hsame : SameLinks before after)
    (hshown : ∀ t ∈ before.entries c name, after.shown t = before.shown t) :
    after.shownEntries c name = before.shownEntries c name := by
  unfold Store.shownEntries
  rw [hsame.entries]
  exact List.map_congr_left hshown

theorem Unseen.shownEntries (hunseen : Unseen before after) (c : CacheId) (name : String) :
    after.shownEntries c name = before.shownEntries c name := by
  refine hunseen.toSameLinks.shownEntries fun t _ => ?_
  simp only [shown, ownerName, hunseen.tagDevice, hunseen.deviceName, hunseen.tagValue]

/-! ## Heads and their names -/

theorem headOf?_eq_none_iff : store.headOf? c name = none ↔ name ∉ store.headNames c := by
  refine ⟨not_mem_headNames_of_headOf?, fun hmissing => ?_⟩
  cases hfound : store.headOf? c name with
  | none => rfl
  | some h => exact absurd (List.mem_map_of_mem (mem_heads_of_headOf? hfound)) hmissing

theorem head_next_tags : (store.head store.heads.next).tags = [] := by
  rw [head_next]
  rfl

/-- The tags of the head of a name, where it is there or made next. -/
theorem tags_headFor : (store.head (store.headFor c name)).tags = store.entries c name := by
  unfold headFor entries
  cases store.headOf? c name with
  | none => exact head_next_tags
  | some h => rfl

/-- The head of another name or of another cache is another head. -/
theorem Meshed.ne_headFor {home : DeviceId → Option CacheId} (hmeshed : store.Meshed home)
    {k : CacheId} {other : String} {h : HeadId} (hfound : store.headOf? k other = some h)
    (hother : k = c → other ≠ name) : h ≠ store.headFor c name := by
  unfold headFor
  cases hhere : store.headOf? c name with
  | none => exact Table.ne_next_of_holds (hmeshed.headOf?_held _ _ hfound)
  | some own =>
    rw [Option.getD_some]
    rintro rfl
    have hthere := mem_heads_of_headOf? hfound
    have hmem := mem_heads_of_headOf? hhere
    have hnamed := hmeshed.headNamed k _ hthere
    rw [hmeshed.headNamed c _ hmem] at hnamed
    exact hother (hmeshed.headOfOne k c _ _ hthere hmem rfl) hnamed.symm

section Link

variable (hc : store.caches.Holds c)

include hc

theorem headNames_linkTag (t : TagId) :
    (store.linkTag c t).headNames c =
      if (store.tag t).name ∈ store.headNames c then store.headNames c
      else store.headNames c ++ [(store.tag t).name] := by
  rw [headNames, cache_linkTag store hc]
  by_cases hmem : (store.tag t).name ∈ store.headNames c
  · rw [if_neg fun hnew => headOf?_eq_none_iff.mp hnew.1 hmem, if_pos hmem]
    rfl
  · rw [if_pos ⟨headOf?_eq_none_iff.mpr hmem, rfl⟩, if_neg hmem, headNames]
    exact List.map_append

theorem headOf?_linkTag (t : TagId) (name : String) :
    (store.linkTag c t).headOf? c name =
      if name = (store.tag t).name then some (store.headFor c name)
      else store.headOf? c name := by
  unfold headOf? headFor
  rw [cache_linkTag store hc]
  by_cases hname : name = (store.tag t).name
  · rw [if_pos hname, ← hname]
    cases hfound : store.headOf? c name with
    | some h =>
      rw [if_neg (by simp)]
      exact hfound
    | none =>
      rw [if_pos (by simp), List.lookup_append]
      rw [headOf?] at hfound
      rw [hfound]
      simp
  · rw [if_neg hname]
    split
    · rw [List.lookup_append, List.lookup_cons, beq_false_of_ne hname]
      simp
    · rfl

/-- A linked tag is the last entry of its name in its cache. -/
theorem Meshed.entries_linkTag {home : DeviceId → Option CacheId}
    (hmeshed : store.Meshed home) (t : TagId) (k : CacheId) (name : String) :
    (store.linkTag c t).entries k name =
      if k = c ∧ name = (store.tag t).name then store.entries k name ++ [t]
      else store.entries k name := by
  have hheld := hmeshed.headOf?_held (c := c) (store.tag t).name
  by_cases hhere : k = c ∧ name = (store.tag t).name
  · obtain ⟨rfl, rfl⟩ := hhere
    unfold entries
    rw [headOf?_linkTag hc, if_pos rfl, if_pos ⟨rfl, rfl⟩]
    dsimp only
    rw [tags_head_linkTag store hheld, if_pos rfl, tags_headFor]
    rfl
  · have hsame : (store.linkTag c t).headOf? k name = store.headOf? k name := by
      by_cases hk : k = c
      · rw [hk, headOf?_linkTag hc, if_neg fun hname => hhere ⟨hk, hname⟩]
      · rw [headOf?, cache_linkTag store hc, if_neg fun hnew => hk hnew.2]
        rfl
    unfold entries
    rw [hsame, if_neg hhere]
    cases hfound : store.headOf? k name with
    | none => rfl
    | some h =>
      dsimp only
      have hother := hmeshed.ne_headFor hfound fun hk hname => hhere ⟨hk, hname⟩
      rw [tags_head_linkTag store hheld, if_neg hother]

end Link

/-! ## A tag that is made -/

theorem Sound.devices_appendTag (hsound : store.Sound) (d : DeviceId) (name value : String)
    (c : CacheId) :
    ((store.appendTag d name value).cache c).devices = (store.cache c).devices := by
  unfold Store.appendTag
  split
  · rfl
  · next k hcache =>
    have hk : (store.makeTag d name value).caches.Holds k := hsound.held _ _ hcache
    rw [devices_cache_linkTag hk, cache_makeTag]

/-- A new tag of an attached device is the last entry of its name. -/
theorem Sound.entries_appendTag (hsound : store.Sound) (hd : store.devices.Holds d)
    (name value : String) (c : CacheId) (other : String) :
    (store.appendTag d name value).entries c other =
      if (store.device d).cache = some c ∧ other = name then
        store.entries c other ++ [store.tags.next]
      else store.entries c other := by
  have hmade := hsound.linked.makeTag hd name value
  unfold Store.appendTag
  split
  · next hnone =>
    rw [hnone, if_neg fun hboth => nomatch hboth.1]
    rfl
  · next k hcache =>
    have hk : (store.makeTag d name value).caches.Holds k := hsound.held _ _ hcache
    rw [hmade.meshed.entries_linkTag hk, tag_makeTag, if_pos rfl, hcache]
    simp only [Option.some.injEq, eq_comm (a := k)]
    rfl

section Append

variable (hsound : store.Sound) (hcache : (store.device d).cache = some c) (name value : String)

include hsound hcache

theorem Sound.headNames_appendTag :
    (store.appendTag d name value).headNames c =
      if name ∈ store.headNames c then store.headNames c else store.headNames c ++ [name] := by
  have hc : (store.makeTag d name value).caches.Holds c := hsound.held _ _ hcache
  rw [Store.appendTag, hcache]
  dsimp only
  rw [headNames_linkTag hc, tag_makeTag, if_pos rfl]
  rfl

omit hsound in
/-- A device that gets a tag keeps its name and its priority. -/
theorem look_appendTag (e : DeviceId) :
    ((store.appendTag d name value).device e).name = (store.device e).name ∧
      ((store.appendTag d name value).device e).priority = (store.device e).priority := by
  rw [device_appendTag store (holds_device_of_cache hcache)]
  split <;> exact ⟨rfl, rfl⟩

theorem Sound.members_appendTag :
    (store.appendTag d name value).members c = store.members c := by
  simp only [members, hsound.devices_appendTag, (look_appendTag hcache name value _).1,
    (look_appendTag hcache name value _).2]

omit hsound in
theorem shown_appendTag (u : TagId) :
    (store.appendTag d name value).shown u =
      if u = store.tags.next then (some (store.device d).name, value) else store.shown u := by
  rw [shown, ownerName, tag_appendTag]
  simp only [(look_appendTag hcache name value _).1]
  split <;> rfl

/-- A new tag shows as the last entry of its name. -/
theorem Sound.shownEntries_appendTag (other : String) :
    (store.appendTag d name value).shownEntries c other =
      if other = name then
        store.shownEntries c other ++ [(some (store.device d).name, value)]
      else store.shownEntries c other := by
  have hold : (store.entries c other).map (store.appendTag d name value).shown =
      store.shownEntries c other := by
    refine List.map_congr_left fun u hu => ?_
    obtain ⟨-, e, howner, -⟩ := hsound.of_mem_entries hu
    rw [shown_appendTag hcache, if_neg (Table.ne_next_of_holds (holds_tag_of_device howner))]
  unfold shownEntries at *
  rw [hsound.entries_appendTag (holds_device_of_cache hcache), hcache]
  simp only [true_and]
  split
  · rw [List.map_append, hold, List.map_singleton, shown_appendTag hcache, if_pos rfl]
  · exact hold

end Append

/-! ## A value that is set -/

theorem shown_setTagValue (t u : TagId) (value : String) (ht : store.tags.Holds t) :
    (store.setTagValue t value).shown u =
      if u = t then (store.ownerName u, value) else store.shown u := by
  have howner : ((store.setTagValue t value).tag u).device = (store.tag u).device :=
    @field_updateTag store _ Tag.device (fun tag => { tag with value }) (fun _ => rfl) t u
  rw [shown, ownerName, howner, setTagValue, tag_updateTag _ (.inl ht)]
  split <;> rfl

theorem setTagValue_eq_self (ht : store.tags.Holds t) {value : String}
    (hvalue : (store.tag t).value = value) : store.setTagValue t value = store := by
  have hrows : store.tags.update t ({ · with value }) = store.tags := by
    apply Table.update_eq_self ht
    rw [← hvalue]
    rfl
  unfold setTagValue updateTag
  rw [hrows]

/-! ## A priority that is set -/

theorem members_setPriority (hd : store.devices.Holds d) (priority : Priority) :
    (store.setPriority d priority).members c =
      (store.cache c).devices.map fun e =>
        ((store.device e).name, if e = d then priority else (store.device e).priority) := by
  unfold members setPriority
  refine List.map_congr_left fun e _ => ?_
  rw [device_updateDevice _ (.inl hd)]
  split <;> rfl

theorem name_setPriority (priority : Priority) (d e : DeviceId) :
    ((store.setPriority d priority).device e).name = (store.device e).name :=
  @Table.field_update _ _ _ _ Device.name (fun device => { device with priority }) (fun _ => rfl)
    store.devices d e

theorem shownEntries_setPriority (priority : Priority) (name : String) :
    (store.setPriority d priority).shownEntries c name = store.shownEntries c name := by
  have hname : ∀ e, ((store.setPriority d priority).device e).name = (store.device e).name :=
    name_setPriority priority d
  refine (sameIndex_setPriority d priority).toSameLinks.shownEntries fun t _ => ?_
  rw [shown, shown, ownerName, ownerName]
  exact congrArg (·, _) (congrArg (Option.map · _) (funext hname))

/-! ## A device that is made -/

section Enroll

variable (store c name)

theorem enroll_eq :
    store.enroll c name =
      ((({ store with devices := store.devices.add { name } } : Store).setDeviceCache
        store.devices.next (some c)).enterCache c store.devices.next).markChanged c := by
  rw [enroll, attach, connect, device_next_add]
  rfl

theorem sameLinks_enroll : SameLinks store (store.enroll c name) := by
  have hmade : SameLinks store { store with devices := store.devices.add { name } } :=
    (sameIndex_addDevice name .default {}).toSameLinks
  exact hmade.trans (sameLinks_attach_untagged (by rw [device_next_add]) c)

theorem device_enroll (d : DeviceId) :
    (store.enroll c name).device d =
      if d = store.devices.next then { name, cache := some c } else store.device d := by
  have hnext := device_next_add store { name }
  rw [enroll, device_attach (Table.holds_next_add _ _)]
  by_cases hd : d = store.devices.next
  · rw [if_pos hd, if_pos hd, hd, hnext]
  · rw [if_neg hd, if_neg hd, device, Table.get_add, if_neg hd]
    rfl

theorem tag_enroll (t : TagId) : (store.enroll c name).tag t = store.tag t := by
  rw [enroll_eq]
  rfl

variable {store c}

theorem devices_enroll (hc : store.caches.Holds c) :
    ((store.enroll c name).cache c).devices = (store.cache c).devices ++ [store.devices.next] := by
  rw [enroll_eq, markChanged, cache_updateCache _ (.inl (by simpa [enterCache, updateCache])),
    if_pos rfl, enterCache, cache_updateCache _ (.inl (by simpa [setDeviceCache, updateDevice])),
    if_pos rfl]
  rfl

theorem Sound.enroll (hsound : store.Sound) (hc : store.caches.Holds c) :
    (store.enroll c name).Sound := by
  have hmade := hsound.of_sameIndex (sameIndex_addDevice name .default {})
  refine hmade.attach hc (Table.holds_next_add _ _) (hmade.invites_of_free ?_ c)
  rw [device_next_add]

/-- A device that points to a cache is none that is made next. -/
theorem ne_next_of_cache (hcache : (store.device d).cache = some c) : d ≠ store.devices.next :=
  Table.ne_next_of_holds (holds_device_of_cache hcache)

theorem Registered.enroll {k : CacheId} (hregistered : store.Registered k)
    (hc : store.caches.Holds c) : (store.enroll c name).Registered k := by
  have hmade := (sameIndex_addDevice name .default {}).sameMembers.registered hregistered
  exact hmade.attach hc (Table.holds_next_add _ _)

theorem Sound.shownEntries_enroll (hsound : store.Sound) (other : String) :
    (store.enroll c name).shownEntries c other = store.shownEntries c other := by
  refine (sameLinks_enroll store c name).shownEntries fun t ht => ?_
  obtain ⟨-, d, howner, hcache⟩ := hsound.of_mem_entries ht
  rw [shown, shown, ownerName, ownerName, tag_enroll, howner, Option.map_some, Option.map_some,
    device_enroll, if_neg (ne_next_of_cache hcache)]

end Enroll

end Store

end DeviceTags
