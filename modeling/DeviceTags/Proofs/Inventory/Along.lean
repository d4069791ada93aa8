import DeviceTags.Proofs.Inventory.Declared
import DeviceTags.Proofs.Supply

/-!
# What holds along a pass

An inventory is brought in step by step: a device is found or made, it gets its priority, and then
one tag after the other. What each of these steps keeps, for the declarations that were carried out
so far, holds after a whole pass. So much for the induction, which is made here once; in other places
it is only said what the steps keep.
-/

namespace DeviceTags

open Attachment (named?)

variable {inventory : Inventory} {c : CacheId} {store before after : Store} {d e : DeviceId}
  {device name : String} {memory : Memory}

/-! ## Which device has a name -/

theorem named?_congr (hdevices : (after.cache c).devices = (before.cache c).devices)
    (hnames : ∀ e ∈ (before.cache c).devices, (after.device e).name = (before.device e).name)
    (device : String) : named? after c device = named? before c device := by
  unfold Attachment.named?
  rw [hdevices]
  exact List.find?_congr fun e he => by rw [hnames e he]

theorem name_of_named? (hnamed : named? store c device = some d) :
    (store.device d).name = device := by
  simpa using List.find?_some hnamed

/-- Devices that are found under different names differ. -/
theorem named?_ne {other : String} (hnamed : named? store c device = some d)
    (hother : named? store c other = some e) (hne : other ≠ device) : e ≠ d := by
  rintro rfl
  exact hne ((name_of_named? hother).symm.trans (name_of_named? hnamed))

theorem cache_of_named? (hsound : store.Sound) (hnamed : named? store c device = some d) :
    (store.device d).cache = some c :=
  hsound.attached c d (mem_devices_of_named? hnamed)

theorem named?_setPriority (priority : Priority) (d : DeviceId) (device : String) :
    named? (store.setPriority d priority) c device = named? store c device := by
  have hdevices : ((store.setPriority d priority).cache c).devices = (store.cache c).devices := rfl
  exact named?_congr hdevices (fun e _ => Store.name_setPriority priority d e) device

theorem named?_markProbed (device : String) :
    named? (store.markProbed c) c device = named? store c device :=
  named?_congr ((Store.sameIndex_markProbed c).cacheDevices c) (fun _ _ => rfl) device

/-- A device that is made comes last, so that it is found under its name if no other one is. -/
theorem Store.Sound.named?_enroll (hsound : store.Sound) (hc : store.caches.Holds c)
    (device other : String) :
    named? (store.enroll c device) c other =
      (named? store c other).or (if device = other then some store.devices.next else none) := by
  have hnext := Store.device_enroll store c device store.devices.next
  rw [if_pos rfl] at hnext
  have hold : (store.cache c).devices.find?
      (fun e => ((store.enroll c device).device e).name = other) = named? store c other := by
    refine List.find?_congr fun e he => ?_
    rw [Store.device_enroll, if_neg (Store.ne_next_of_cache (hsound.attached _ _ he))]
  rw [Attachment.named?, Store.devices_enroll device hc, List.find?_append, hold,
    List.find?_singleton, hnext]
  simp only [decide_eq_true_eq]

theorem Store.Sound.named?_enroll_self (hsound : store.Sound) (hc : store.caches.Holds c)
    (hmissing : named? store c device = none) :
    named? (store.enroll c device) c device = some store.devices.next := by
  rw [hsound.named?_enroll hc, hmissing, Option.none_or, if_pos rfl]

/-- Setting a tag changes neither the devices of a cache nor a name or a priority. -/
theorem Store.Sound.look_assignTag (hsound : store.Sound)
    (hcache : (store.device d).cache = some c) (key value : String) (e : DeviceId) :
    ((store.assignTag d key value true).cache c).devices = (store.cache c).devices ∧
      ((store.assignTag d key value true).device e).name = (store.device e).name ∧
      ((store.assignTag d key value true).device e).priority = (store.device e).priority := by
  unfold Store.assignTag
  cases store.firstTag? d key with
  | none =>
    have hunseen : Unseen (store.appendTag d key value) _ :=
      unseen_finish d key (some store.tags.next)
    have hlook := look_appendTag hcache key value e
    exact ⟨(hunseen.cacheDevices c).trans (hsound.devices_appendTag d key value c),
      (hunseen.deviceName e).trans hlook.1, (hunseen.devicePriority e).trans hlook.2⟩
  | some first =>
    dsimp only
    split
    · exact ⟨rfl, rfl, rfl⟩
    · have hunseen : Unseen (store.setTagValue first value) _ := unseen_finish d key (some first)
      exact ⟨hunseen.cacheDevices c, hunseen.deviceName e, hunseen.devicePriority e⟩

theorem Store.Sound.named?_assignTag (hsound : store.Sound)
    (hcache : (store.device d).cache = some c) (key value device : String) :
    named? (store.assignTag d key value true) c device = named? store c device :=
  named?_congr (hsound.look_assignTag hcache key value d).1
    (fun e _ => (hsound.look_assignTag hcache key value e).2.1) device

/-! ## The mark of a change -/

namespace Store

theorem changed_setPriority (d : DeviceId) (priority : Priority) (k : CacheId) :
    ((store.setPriority d priority).cache k).changed = (store.cache k).changed := rfl

theorem changed_markProbed (k : CacheId) :
    ((store.markProbed c).cache k).changed = (store.cache k).changed :=
  @Table.field_update _ _ _ _ Cache.changed ({ · with probed := true }) (fun _ => rfl)
    store.caches c k

theorem changed_enroll (hc : store.caches.Holds c) (device : String) :
    ((store.enroll c device).cache c).changed = true := by
  rw [enroll_eq, markChanged, cache_updateCache_self _ (by simpa [enterCache, updateCache])]

/-- What follows the change of the tags marks the cache of the device. -/
theorem changed_finish {link : Option TagId} (hcache : (store.device d).cache = some c)
    (hc : store.caches.Holds c) (key : String) :
    (((store.linkAlias d key link).markDeviceChanged d).cache c).changed = true := by
  have hlinked : Unseen store (store.linkAlias d key link) := unseen_linkAlias d key link
  rw [markDeviceChanged, hlinked.deviceCache, hcache]
  dsimp only
  rw [cache_updateCache_self _ (hlinked.lasting.holds_cache hc)]

/-- Setting a tag marks the cache of its device, unless it changes nothing. -/
theorem Sound.changed_assignTag (hsound : store.Sound) (hcache : (store.device d).cache = some c)
    (key value : String) :
    store.assignTag d key value true = store ∨
      ((store.assignTag d key value true).cache c).changed = true := by
  have hc := hsound.held _ _ hcache
  unfold Store.assignTag
  cases store.firstTag? d key with
  | none =>
    have hd := holds_device_of_cache hcache
    have hlasting := (hsound.progress_appendTag hd key value).lasting
    refine .inr (changed_finish ?_ (hlasting.holds_cache hc) key)
    rw [device_appendTag store hd, if_pos rfl]
    exact hcache
  | some first =>
    dsimp only
    split
    · exact .inl rfl
    · have hset : ((store.setTagValue first value).device d).cache = some c := hcache
      exact .inr (changed_finish hset hc key)

theorem Sound.changed_of_assignTag (hsound : store.Sound)
    (hcache : (store.device d).cache = some c) (key value : String)
    (hchanged : (store.cache c).changed = true) :
    ((store.assignTag d key value true).cache c).changed = true := by
  rcases hsound.changed_assignTag hcache key value with hsame | hmarked
  · rw [hsame, hchanged]
  · exact hmarked

end Store

/-! ## Steps -/

/-- A property of a store and of the declarations that were brought into one of its caches which
every step of bringing in one more keeps. -/
structure Along (inventory : Inventory) (c : CacheId) (shows : List DeviceSpec → Store → Prop) :
    Prop where
  found : ∀ {specs store device d}, store.Sound → shows specs store →
    named? store c device = some d → ∀ priority,
    shows (specs ++ [⟨device, priority, []⟩])
      (store.setPriority d (inventory.priorityOf ⟨device, priority, []⟩))
  made : ∀ {specs store device}, store.Sound → store.caches.Holds c → shows specs store →
    named? store c device = none → ∀ priority,
    shows (specs ++ [⟨device, priority, []⟩]) ((store.enroll c device).setPriority
      store.devices.next (inventory.priorityOf ⟨device, priority, []⟩))
  assigned : ∀ {specs store device d priority tags}, store.Sound →
    shows (specs ++ [⟨device, priority, tags⟩]) store → named? store c device = some d →
    ∀ key value, shows (specs ++ [⟨device, priority, tags ++ [(key, .string value)]⟩])
      (store.assignTag d key value true)
  marked : ∀ {specs store}, store.Sound → shows specs store → shows specs (store.markProbed c)

namespace Along

variable {shows other : List DeviceSpec → Store → Prop} {specs : List DeviceSpec}

theorem and (halong : Along inventory c shows) (hother : Along inventory c other) :
    Along inventory c fun specs store => shows specs store ∧ other specs store where
  found hsound hboth hnamed priority :=
    ⟨halong.found hsound hboth.1 hnamed priority, hother.found hsound hboth.2 hnamed priority⟩
  made hsound hc hboth hmissing priority :=
    ⟨halong.made hsound hc hboth.1 hmissing priority,
      hother.made hsound hc hboth.2 hmissing priority⟩
  assigned hsound hboth hnamed key value :=
    ⟨halong.assigned hsound hboth.1 hnamed key value,
      hother.assigned hsound hboth.2 hnamed key value⟩
  marked hsound hboth := ⟨halong.marked hsound hboth.1, hother.marked hsound hboth.2⟩

/-- What holds in the midst of a pass. -/
structure Stands (shows : List DeviceSpec → Store → Prop) (c : CacheId) (specs : List DeviceSpec)
    (store : Store) : Prop where
  sound : store.Sound
  held : store.caches.Holds c
  shown : shows specs store

variable (halong : Along inventory c shows)

include halong

theorem short_bringTags (hnamed : named? memory.store c device = some d)
    {priority : Option Priority} {front : List (String × Datum)} (tags : List (String × Datum))
    (hstands : Stands shows c (specs ++ [⟨device, priority, front⟩]) memory.store)
    (hkeys : ∀ tag ∈ tags, tag.1 ≠ "") (htexts : ∀ tag ∈ tags, ∃ text, tag.2 = .string text) :
    UnlessShort (Inventory.bringTags d tags) memory fun _ store =>
      Stands shows c (specs ++ [⟨device, priority, front ++ tags⟩]) store := by
  -- On the tags that are still to be set; the declaration grows by each of them.
  induction tags generalizing memory front with
  | nil =>
    rw [List.append_nil]
    exact .pure hstands
  | cons tag rest ih =>
    obtain ⟨key, datum⟩ := tag
    obtain ⟨value, rfl⟩ := htexts (key, datum) List.mem_cons_self
    have hkey : key ≠ "" := hkeys (key, .string value) List.mem_cons_self
    have hcache := cache_of_named? hstands.sound hnamed
    have hd := Store.holds_device_of_cache hcache
    unfold Inventory.bringTags
    refine (short_set hstands.sound hd hkey value true).bind fun _ after hafter => ?_
    have hstays := hstands.sound.named?_assignTag hcache key value device
    rw [← hafter, hnamed] at hstays
    have hset : Stands shows c (specs ++ [⟨device, priority, front ++ [(key, .string value)]⟩])
        after.store := by
      rw [hafter]
      have hadvance := hstands.sound.advance_setTag hd key (some value) true
      exact ⟨hadvance.sound, hadvance.progress.lasting.holds_cache hstands.held,
        halong.assigned hstands.sound hstands.shown hnamed key value⟩
    have hrest := ih hstays hset (fun tag ht => hkeys tag (List.mem_cons_of_mem _ ht))
      fun tag ht => htexts tag (List.mem_cons_of_mem _ ht)
    rw [List.append_assoc] at hrest
    exact hrest

theorem short_bringDevice (spec : DeviceSpec) (hvalid : spec.Valid)
    (hstands : Stands shows c specs memory.store) :
    UnlessShort (inventory.bringDevice c spec) memory fun _ store =>
      Stands shows c (specs ++ [spec]) store := by
  obtain ⟨device, priority, tags⟩ := spec
  obtain ⟨hsound, hheld, hshown⟩ := hstands
  unfold Inventory.bringDevice
  refine (short_obtain hsound hvalid.named).bind fun d found hfound => .edit_bind ?_
  have hseated : Stands shows c (specs ++ [⟨device, priority, []⟩])
        (found.store.setPriority d (inventory.priorityOf ⟨device, priority, []⟩)) ∧
      named? found.store c device = some d := by
    rcases hfound with ⟨hnamed, hsame⟩ | ⟨hmissing, rfl, hmade⟩
    · rw [hsame]
      exact ⟨⟨hsound.of_sameIndex (Store.sameIndex_setPriority d _), hheld,
        halong.found hsound hshown hnamed priority⟩, hnamed⟩
    · rw [hmade]
      have henrolled := hsound.enroll device hheld
      refine ⟨⟨henrolled.of_sameIndex (Store.sameIndex_setPriority _ _), ?_,
        halong.made hsound hheld hshown hmissing priority⟩, ?_⟩
      · exact (Store.sameLinks_enroll memory.store c device).lasting.holds_cache hheld
      · exact hsound.named?_enroll_self hheld hmissing
  have hstays : named? (found.withStore (found.store.setPriority d
      (inventory.priorityOf ⟨device, priority, tags⟩))).store c device = some d :=
    (named?_setPriority _ d device).trans hseated.2
  have hbegun : Stands shows c (specs ++ [⟨device, priority, []⟩])
      (found.withStore (found.store.setPriority d
        (inventory.priorityOf ⟨device, priority, tags⟩))).store := hseated.1
  exact halong.short_bringTags hstays tags hbegun hvalid.tagsNamed hvalid.texts

theorem short_bringDevices (more : List DeviceSpec) (hvalid : ∀ spec ∈ more, spec.Valid)
    (hstands : Stands shows c specs memory.store) :
    UnlessShort (inventory.bringDevices c more) memory fun _ store =>
      Stands shows c (specs ++ more) store := by
  induction more generalizing memory specs with
  | nil =>
    rw [List.append_nil]
    exact .pure hstands
  | cons spec rest ih =>
    unfold Inventory.bringDevices
    refine (halong.short_bringDevice spec (hvalid spec List.mem_cons_self) hstands).bind
      fun _ brought hbrought => ?_
    have hrest := ih (fun spec hs => hvalid spec (List.mem_cons_of_mem _ hs)) hbrought
    rw [List.append_assoc] at hrest
    exact hrest

/-- Probing brings every declared device in, whatever was declared before. -/
theorem short_probe (hvalid : ∀ spec ∈ inventory.devices, spec.Valid)
    (hsound : memory.store.Sound) (hheld : memory.store.caches.Holds c)
    (hshows : shows specs memory.store) :
    UnlessShort (inventory.probe c) memory fun _ store =>
      shows (specs ++ inventory.devices) store ∧ (store.cache c).probed = true := by
  unfold Inventory.probe
  refine (short_log _ _ _).bind fun _ logged hlogged => ?_
  rw [← hlogged] at hsound hheld hshows
  refine (halong.short_bringDevices _ hvalid ⟨hsound, hheld, hshows⟩).bind
    fun _ brought hbrought => ?_
  refine .edit_bind (.look_bind ((short_log _ _ _).mono fun _ after hafter => ?_))
  rw [hafter]
  refine ⟨halong.marked hbrought.sound hbrought.shown, ?_⟩
  rw [Memory.store_withStore, Store.markProbed, Store.cache_updateCache_self _ hbrought.held]

end Along

end DeviceTags
