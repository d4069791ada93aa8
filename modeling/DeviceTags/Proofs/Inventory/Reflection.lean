import DeviceTags.Proofs.Agreement
import DeviceTags.Proofs.Inventory.Along

/-!
# Caches that reflect an inventory

A cache that declared devices were brought into shows what the declarations come to: the devices with
their priorities, under every tag name the devices that have it with their values, and the tag names.
Bringing in one more device keeps this, and so does setting one more tag of the device that came
last; a whole inventory is brought in by induction on its devices and their tags.
-/

namespace DeviceTags

open Inventory Store

/-- A value that a device declares, as an entry of the index shows it. -/
def Inventory.asEntry (entry : String × Datum) : Option String × Datum := (some entry.1, entry.2)

/-- An entry of the index, with its value as a declaration has it. -/
def Store.asDeclared (entry : Option String × String) : Option String × Datum :=
  (entry.1, .string entry.2)

/-- A cache shows what declarations come to. -/
structure Reflects (inventory : Inventory) (c : CacheId) (specs : List DeviceSpec)
    (store : Store) : Prop where
  sound : store.Sound
  held : store.caches.Holds c
  registered : store.Registered c
  members : store.members c = inventory.roster specs
  columns : ∀ name, (store.shownEntries c name).map asDeclared = (column specs name).map asEntry
  headNames : store.headNames c = tagNames specs

/-- A device of a name is in a cache. -/
structure Store.Hosts (store : Store) (c : CacheId) (name : String) (d : DeviceId) : Prop where
  mem : d ∈ (store.cache c).devices
  named : (store.device d).name = name

variable {inventory : Inventory} {c : CacheId} {specs : List DeviceSpec} {store after : Store}
  {device : String} {d : DeviceId}

/-! ## What is read off -/

theorem Reflects.of_unseen (hreflects : Reflects inventory c specs store)
    (hunseen : Unseen store after) : Reflects inventory c specs after where
  sound := hreflects.sound.of_sameIndex hunseen.toSameIndex
  held := hunseen.lasting.holds_cache hreflects.held
  registered := hunseen.toSameIndex.sameMembers.registered hreflects.registered
  members := (hunseen.members c).trans hreflects.members
  columns name := by
    rw [hunseen.shownEntries]
    exact hreflects.columns name
  headNames := (hunseen.headNames c).trans hreflects.headNames

/-- The devices of a cache have distinct names. -/
theorem Reflects.namesOnce (hreflects : Reflects inventory c specs store) :
    ((store.cache c).devices.map fun d => (store.device d).name).Nodup := by
  have honce := nodup_roster specs inventory
  rw [← hreflects.members, Store.members, List.map_map] at honce
  exact honce

theorem Reflects.name_inj (hreflects : Reflects inventory c specs store)
    (hhosts : store.Hosts c device d) {e : DeviceId} (he : e ∈ (store.cache c).devices) :
    (store.device e).name = device ↔ e = d := by
  constructor
  · intro hname
    refine List.inj_on_of_nodup_map hreflects.namesOnce he hhosts.mem ?_
    rw [hname, hhosts.named]
  · rintro rfl
    exact hhosts.named

/-- Of the entries of a name, those of a device are its tags of that name. -/
theorem Store.Sound.mem_entries_iff (hsound : store.Sound) (hd : d ∈ (store.cache c).devices)
    (name : String) (t : TagId) :
    t ∈ store.entries c name ∧ (store.tag t).device = some d ↔
      t ∈ (store.device d).tags ∧ (store.tag t).name = name := by
  have hmem := congrArg (t ∈ ·) (hsound.sameOrder name (hsound.attached c d hd))
  simpa only [List.mem_filter, decide_eq_true_eq, eq_iff_iff] using hmem

theorem Store.Sound.owner_of_entries (hsound : store.Sound) (hregistered : store.Registered c)
    {name : String} {t : TagId} (ht : t ∈ store.entries c name) :
    ∃ d ∈ (store.cache c).devices, (store.tag t).device = some d := by
  obtain ⟨-, d, howner, hcache⟩ := hsound.of_mem_entries ht
  exact ⟨d, hregistered d hcache, howner⟩

/-- An entry shows the name of a device exactly if that device owns it. -/
theorem Reflects.ownerName_iff (hreflects : Reflects inventory c specs store)
    (hhosts : store.Hosts c device d) {name : String} {t : TagId}
    (ht : t ∈ store.entries c name) :
    store.ownerName t = some device ↔ (store.tag t).device = some d := by
  obtain ⟨e, he, howner⟩ := hreflects.sound.owner_of_entries hreflects.registered ht
  rw [Store.ownerName, howner, Option.map_some, Option.some.injEq, Option.some.injEq,
    hreflects.name_inj hhosts he]

/-- The owners of the entries of a name have distinct names. -/
theorem Reflects.ownersOnce (hreflects : Reflects inventory c specs store) (name : String) :
    ((store.entries c name).map store.ownerName).Nodup := by
  have honce := (nodup_column specs name).map (Option.some_injective String)
  have hcolumn := congrArg (List.map Prod.fst) (hreflects.columns name)
  rw [shownEntries, List.map_map, List.map_map, List.map_map] at hcolumn
  rw [List.map_map] at honce
  rw [show (store.entries c name).map store.ownerName = _ from hcolumn]
  exact honce

/-- A device is in the column of a name exactly if it has a tag of the name. -/
theorem Reflects.mem_column_iff (hreflects : Reflects inventory c specs store)
    (hhosts : store.Hosts c device d) (name : String) :
    device ∈ (column specs name).map Prod.fst ↔
      ∃ t ∈ (store.device d).tags, (store.tag t).name = name := by
  have hmem : device ∈ (column specs name).map Prod.fst ↔
      some device ∈ (store.entries c name).map store.ownerName := by
    have hcolumn := congrArg (some device ∈ List.map Prod.fst ·) (hreflects.columns name)
    rw [shownEntries] at hcolumn
    simpa [asEntry, asDeclared, shown, eq_comm] using hcolumn.symm
  rw [hmem, List.mem_map]
  constructor
  · rintro ⟨t, ht, hshown⟩
    have howner := (hreflects.ownerName_iff hhosts ht).mp hshown
    exact ⟨t, (hreflects.sound.mem_entries_iff hhosts.mem name t).mp ⟨ht, howner⟩⟩
  · rintro ⟨t, ht, hname⟩
    obtain ⟨hentry, howner⟩ :=
      (hreflects.sound.mem_entries_iff hhosts.mem name t).mpr ⟨ht, hname⟩
    exact ⟨t, hentry, (hreflects.ownerName_iff hhosts hentry).mpr howner⟩

/-! ## A declaration more -/

/-- The priority of a device of a cache is set to that of its last declaration. -/
theorem Reflects.rank (hreflects : Reflects inventory c specs store)
    (hhosts : store.Hosts c device d) (priority : Option Priority) :
    Reflects inventory c (specs ++ [⟨device, priority, []⟩])
      (store.setPriority d (inventory.priorityOf ⟨device, priority, []⟩)) where
  sound := hreflects.sound.of_sameIndex (sameIndex_setPriority d _)
  held := (sameIndex_setPriority d _).lasting.holds_cache hreflects.held
  registered := (sameIndex_setPriority d _).sameMembers.registered hreflects.registered
  members := by
    have hd : store.devices.Holds d :=
      holds_device_of_cache (hreflects.sound.attached c d hhosts.mem)
    have hkeys : ((store.members c).map Prod.fst).Nodup := by
      rw [Store.members, List.map_map]
      exact hreflects.namesOnce
    have hthere : device ∈ (store.members c).map Prod.fst := by
      rw [Store.members, List.map_map]
      exact List.mem_map.mpr ⟨d, hhosts.mem, hhosts.named⟩
    rw [roster_concat, ← hreflects.members, mergeEntry_of_mem hkeys hthere,
      members_setPriority hd, Store.members, List.map_map]
    refine List.map_congr_left fun e he => ?_
    simp only [Function.comp_apply, hreflects.name_inj hhosts he]
    split
    · next hsame => rw [hsame, hhosts.named]
    · rfl
  columns name := by
    rw [column_concat_nil, ← hreflects.columns, shownEntries_setPriority]
  headNames := by
    rw [tagNames_concat_nil, ← hreflects.headNames]
    exact (sameIndex_setPriority d _).toSameLinks.headNames c

theorem hosts_of_named? (hfound : Attachment.named? store c device = some d) :
    store.Hosts c device d :=
  ⟨mem_devices_of_named? hfound, by simpa using List.find?_some hfound⟩

theorem Store.hosts_enroll (hheld : store.caches.Holds c) :
    (store.enroll c device).Hosts c device store.devices.next where
  mem := by
    rw [devices_enroll device hheld]
    exact List.mem_append_right _ List.mem_cons_self
  named := by rw [device_enroll, if_pos rfl]

/-- A device of a new name is made and gets the priority of its declaration. -/
theorem Reflects.enroll (hreflects : Reflects inventory c specs store)
    (hmissing : Attachment.named? store c device = none) (priority : Option Priority) :
    Reflects inventory c (specs ++ [⟨device, priority, []⟩])
      ((store.enroll c device).setPriority store.devices.next
        (inventory.priorityOf ⟨device, priority, []⟩)) where
  sound := (hreflects.sound.enroll device hreflects.held).of_sameIndex (sameIndex_setPriority _ _)
  held := by
    have henrolled := (sameLinks_enroll store c device).lasting.holds_cache hreflects.held
    exact (sameIndex_setPriority _ _).lasting.holds_cache henrolled
  registered := by
    have henrolled := hreflects.registered.enroll device hreflects.held
    exact (sameIndex_setPriority _ _).sameMembers.registered henrolled
  members := by
    have hnew : device ∉ (store.members c).map Prod.fst := by
      unfold Store.members Attachment.named? at *
      rw [List.find?_eq_none] at hmissing
      rw [List.map_map, List.mem_map]
      rintro ⟨e, he, hname⟩
      exact hmissing e he (by simpa using hname)
    have hheld : (store.enroll c device).devices.Holds store.devices.next :=
      holds_device_of_cache ((hreflects.sound.enroll device hreflects.held).attached c _
        (hosts_enroll hreflects.held).mem)
    rw [roster_concat, ← hreflects.members, mergeEntry_of_not_mem hnew, members_setPriority hheld,
      devices_enroll device hreflects.held, List.map_append, List.map_singleton, device_enroll,
      if_pos rfl, if_pos rfl]
    refine congrArg (· ++ [_]) (List.map_congr_left fun e he => ?_)
    have hne := Store.ne_next_of_cache (hreflects.sound.attached _ _ he)
    rw [device_enroll, if_neg hne, if_neg hne]
  columns name := by
    rw [column_concat_nil, ← hreflects.columns, shownEntries_setPriority,
      hreflects.sound.shownEntries_enroll]
  headNames := by
    rw [tagNames_concat_nil, ← hreflects.headNames]
    exact ((sameIndex_setPriority _ _).toSameLinks.headNames c).trans
      ((sameLinks_enroll store c device).headNames c)

/-! ## A tag more -/

/-- Setting a tag changes neither the devices of a cache nor a name. -/
theorem Store.Sound.hosts_assignTag (hsound : store.Sound)
    (hcache : (store.device d).cache = some c) (key value device : String) (e : DeviceId) :
    (store.assignTag d key value true).Hosts c device e ↔ store.Hosts c device e := by
  have hsame := hsound.look_assignTag hcache key value e
  constructor
  · exact fun hhosts => ⟨hsame.1 ▸ hhosts.mem, hsame.2.1 ▸ hhosts.named⟩
  · exact fun hhosts => ⟨hsame.1.symm ▸ hhosts.mem, hsame.2.1.symm ▸ hhosts.named⟩

section Assign

variable {priority : Option Priority} {tags : List (String × Datum)}
  (hreflects : Reflects inventory c (specs ++ [⟨device, priority, tags⟩]) store)
  (hhosts : store.Hosts c device d) (key value : String)

include hreflects hhosts

omit hhosts in
/-- The roster does not depend on tags. -/
theorem Reflects.members_tag :
    store.members c =
      inventory.roster (specs ++ [⟨device, priority, tags ++ [(key, .string value)]⟩]) := by
  rw [hreflects.members, roster_concat, roster_concat]
  rfl

/-- A tag of a name that the device does not have yet is added. -/
theorem Reflects.append (hnew : ∀ t ∈ (store.device d).tags, (store.tag t).name ≠ key) :
    Reflects inventory c (specs ++ [⟨device, priority, tags ++ [(key, .string value)]⟩])
      (store.appendTag d key value) := by
  have hcache := hreflects.sound.attached c d hhosts.mem
  constructor
  case sound => exact hreflects.sound.appendTag (holds_device_of_cache hcache) key value
  case held =>
    have hlasting := (hreflects.sound.progress_appendTag (holds_device_of_cache hcache) key
      value).lasting
    exact hlasting.holds_cache hreflects.held
  case registered =>
    have hsame := sameMembers_appendTag (holds_device_of_cache hcache) (hreflects.sound.held d) key
      value
    exact hsame.registered hreflects.registered
  case members =>
    rw [hreflects.sound.members_appendTag hcache]
    exact hreflects.members_tag key value
  case columns =>
    intro name
    rw [column_concat_tag, hreflects.sound.shownEntries_appendTag hcache]
    by_cases hname : key = name
    · subst hname
      have hmissing : device ∉ (column (specs ++ [⟨device, priority, tags⟩]) key).map Prod.fst := by
        rw [hreflects.mem_column_iff hhosts]
        rintro ⟨t, ht, hnamed⟩
        exact hnew t ht hnamed
      rw [if_pos rfl, if_pos rfl, mergeEntry_of_not_mem hmissing, List.map_append,
        List.map_append, hreflects.columns, hhosts.named]
      rfl
    · rw [if_neg hname, if_neg (Ne.symm hname), hreflects.columns]
  case headNames =>
    rw [tagNames_concat_tag, hreflects.sound.headNames_appendTag hcache, hreflects.headNames]

/-- The name of a tag of the device has a head. -/
theorem Reflects.mem_tagNames {t : TagId} (ht : t ∈ (store.device d).tags) :
    (store.tag t).name ∈ tagNames (specs ++ [⟨device, priority, tags⟩]) := by
  obtain ⟨h, hfound, -⟩ :=
    hreflects.sound.head_of_attached (hreflects.sound.attached c d hhosts.mem) ht
  rw [← hreflects.headNames]
  exact List.mem_map_of_mem (mem_heads_of_headOf? hfound)

/-- A new value takes the place of the old one. -/
theorem Reflects.replace {t : TagId} (ht : t ∈ (store.device d).tags)
    (hkey : (store.tag t).name = key) :
    Reflects inventory c (specs ++ [⟨device, priority, tags ++ [(key, .string value)]⟩])
      (store.setTagValue t value) := by
  have hsame : SameIndex store (store.setTagValue t value) := sameIndex_setTagValue t value
  have hheld : store.tags.Holds t :=
    holds_tag_of_device ((hreflects.sound.linked.listed d t).mp ht)
  constructor
  case sound => exact hreflects.sound.of_sameIndex hsame
  case held => exact hsame.lasting.holds_cache hreflects.held
  case registered => exact hsame.sameMembers.registered hreflects.registered
  case members => exact hreflects.members_tag key value
  case columns =>
    intro name
    rw [column_concat_tag]
    by_cases hname : key = name
    · subst hname
      have hthere : device ∈ (column (specs ++ [⟨device, priority, tags⟩]) key).map Prod.fst :=
        (hreflects.mem_column_iff hhosts key).mpr ⟨t, ht, hkey⟩
      obtain ⟨hentry, howner⟩ :=
        (hreflects.sound.mem_entries_iff hhosts.mem key t).mpr ⟨ht, hkey⟩
      -- The entry of the tag is the only one of its device.
      have honly : ∀ u ∈ store.entries c key, u = t ↔ store.ownerName u = some device := by
        intro u hu
        have hshown := (hreflects.ownerName_iff hhosts hentry).mpr howner
        constructor
        · rintro rfl
          exact hshown
        · intro hother
          exact List.inj_on_of_nodup_map (hreflects.ownersOnce key) hu hentry
            (hother.trans hshown.symm)
      have hcolumn : (mergeEntry device (.string value)
          (column (specs ++ [⟨device, priority, tags⟩]) key)).map asEntry =
            ((column (specs ++ [⟨device, priority, tags⟩]) key).map asEntry).map fun entry =>
              if entry.1 = some device then (some device, .string value) else entry := by
        rw [mergeEntry_of_mem (nodup_column _ key) hthere, List.map_map, List.map_map]
        refine List.map_congr_left fun entry _ => ?_
        simp only [Function.comp_apply, asEntry, Option.some.injEq]
        split <;> rfl
      rw [if_pos rfl, hcolumn, ← hreflects.columns, shownEntries, hsame.toSameLinks.entries,
        shownEntries, List.map_map, List.map_map, List.map_map]
      refine List.map_congr_left fun u hu => ?_
      simp only [Function.comp_apply, shown_setTagValue t u value hheld, honly u hu]
      by_cases howned : store.ownerName u = some device
      · simp [asDeclared, shown, howned]
      · simp [asDeclared, shown, howned]
    · rw [if_neg hname, ← hreflects.columns]
      congr 1
      refine hsame.toSameLinks.shownEntries fun u hu => ?_
      rw [shown_setTagValue t u value hheld, if_neg]
      rintro rfl
      have howner := (hreflects.sound.linked.listed d u).mp ht
      exact hname (hkey.symm.trans
        ((hreflects.sound.mem_entries_iff hhosts.mem name u).mp ⟨hu, howner⟩).2)
  case headNames =>
    rw [tagNames_concat_tag, if_pos (hkey ▸ hreflects.mem_tagNames hhosts ht),
      ← hreflects.headNames]
    exact hsame.toSameLinks.headNames c

/-- Setting a tag carries its declaration out: it is added, gets the value, or has it already. -/
theorem Reflects.assign :
    Reflects inventory c (specs ++ [⟨device, priority, tags ++ [(key, .string value)]⟩])
      (store.assignTag d key value true) := by
  unfold Store.assignTag
  cases hfirst : store.firstTag? d key with
  | none =>
    have hnew : ∀ t ∈ (store.device d).tags, (store.tag t).name ≠ key := by
      simpa [Store.firstTag?] using hfirst
    exact (hreflects.append hhosts key value hnew).of_unseen (unseen_finish d key _)
  | some first =>
    have ht : first ∈ (store.device d).tags := List.mem_of_find?_eq_some hfirst
    have hkey : (store.tag first).name = key := by simpa using List.find?_some hfirst
    have hset := hreflects.replace hhosts key value ht hkey
    dsimp only
    split
    · next hvalue =>
      rwa [setTagValue_eq_self (holds_tag_of_device ((hreflects.sound.linked.listed d _).mp ht))
        hvalue] at hset
    · exact hset.of_unseen (unseen_finish d key _)

end Assign

/-! ## Bringing devices in -/

/-- A property of a cache and the declarations that were brought into it which every step of bringing
in one more keeps: its device is there or made, gets its priority, and then each of its tags. -/
structure Follows (inventory : Inventory) (c : CacheId)
    (shows : List DeviceSpec → Store → Prop) : Prop where
  reflects : ∀ {specs store}, shows specs store → Reflects inventory c specs store
  unseen : ∀ {specs before after}, shows specs before → Unseen before after → shows specs after
  rank : ∀ {specs store device d}, shows specs store → store.Hosts c device d → ∀ priority,
    shows (specs ++ [⟨device, priority, []⟩])
      (store.setPriority d (inventory.priorityOf ⟨device, priority, []⟩))
  enroll : ∀ {specs store device}, shows specs store →
    Attachment.named? store c device = none → ∀ priority,
    shows (specs ++ [⟨device, priority, []⟩]) ((store.enroll c device).setPriority
      store.devices.next (inventory.priorityOf ⟨device, priority, []⟩))
  assign : ∀ {specs store device d priority tags},
    shows (specs ++ [⟨device, priority, tags⟩]) store → store.Hosts c device d → ∀ key value,
    shows (specs ++ [⟨device, priority, tags ++ [(key, .string value)]⟩])
      (store.assignTag d key value true)

theorem follows_reflects : Follows inventory c (Reflects inventory c) where
  reflects hreflects := hreflects
  unseen := Reflects.of_unseen
  rank := Reflects.rank
  enroll := Reflects.enroll
  assign := Reflects.assign

namespace Follows

variable {memory : Memory} {shows : List DeviceSpec → Store → Prop}
  (hfollows : Follows inventory c shows)

include hfollows

theorem along : Along inventory c shows where
  found _ hshows hnamed priority := hfollows.rank hshows (hosts_of_named? hnamed) priority
  made _ _ hshows hmissing priority := hfollows.enroll hshows hmissing priority
  assigned _ hshows hnamed key value :=
    hfollows.assign hshows (hosts_of_named? hnamed) key value
  marked _ hshows := hfollows.unseen hshows (unseen_markProbed c)

/-- Probing brings every declared device in, whatever was declared before. -/
theorem goes_probe (hvalid : ∀ spec ∈ inventory.devices, spec.Valid)
    (hshows : shows specs memory.store) :
    GoesThrough (inventory.probe c) memory fun _ store =>
      shows (specs ++ inventory.devices) store ∧ (store.cache c).probed = true :=
  (hfollows.along.short_probe hvalid (hfollows.reflects hshows).sound
    (hfollows.reflects hshows).held hshows).goesThrough

end Follows

theorem goes_inventory {memory : Memory} (hvalid : ∀ spec ∈ inventory.devices, spec.Valid)
    (hreflects : Reflects inventory c specs memory.store) :
    GoesThrough (inventory.probe c) memory fun _ store =>
      Reflects inventory c (specs ++ inventory.devices) store ∧ (store.cache c).probed = true :=
  follows_reflects.goes_probe hvalid hreflects

end DeviceTags
