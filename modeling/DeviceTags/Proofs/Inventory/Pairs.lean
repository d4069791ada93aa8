import DeviceTags.Proofs.Inventory.Reflection

/-!
# The tags of a declared device

A device of a cache that declarations were brought into has the tags that its declarations come to:
every name once, in the order in which the names are first declared, with the value that is declared
last. Setting a tag does to the tags of a device what merging an entry does to a table.
-/

namespace DeviceTags

open Inventory Store

/-! ## Declarations -/

namespace Inventory

/-- A tag of a device as a declaration has it. -/
def asTag (pair : String × String) : String × Datum := (pair.1, .string pair.2)

theorem map_asTag_mergeEntry (key value : String) (pairs : List (String × String)) :
    (mergeEntry key value pairs).map asTag = mergeEntry key (.string value) (pairs.map asTag) := by
  induction pairs with
  | nil => rfl
  | cons pair rest ih =>
    rw [mergeEntry, List.map_cons, mergeEntry]
    change List.map asTag (if pair.1 = key then _ else _) = if pair.1 = key then _ else _
    split
    · rfl
    · rw [List.map_cons, ih]

theorem lookup_map_asTag (pairs : List (String × String)) (name : String) :
    (pairs.map asTag).lookup name = (pairs.lookup name).map Datum.string := by
  induction pairs with
  | nil => rfl
  | cons pair rest ih =>
    rw [List.map_cons, List.lookup_cons, List.lookup_cons, ih]
    cases hname : name == pair.1 <;> simp [asTag, hname]

variable (specs : List DeviceSpec) (device other : String) (priority : Option Priority)

theorem declaredTags_concat_nil :
    declaredTags (specs ++ [⟨other, priority, []⟩]) device = declaredTags specs device := by
  rw [declaredTags, declaredTags, declaring, declaring, List.filter_append, List.flatMap_append]
  by_cases hother : other = device <;> simp [hother]

/-- A declaration that goes on with a tag merges it into the tags of its device. -/
theorem declaredTags_concat_tag (tags : List (String × Datum)) (key : String) (value : Datum) :
    declaredTags (specs ++ [⟨other, priority, tags ++ [(key, value)]⟩]) device =
      if other = device then
        mergeEntry key value (declaredTags (specs ++ [⟨other, priority, tags⟩]) device)
      else declaredTags (specs ++ [⟨other, priority, tags⟩]) device := by
  unfold declaredTags declaring
  rw [List.filter_append, List.filter_append, List.flatMap_append, List.flatMap_append]
  by_cases hother : other = device
  · simp only [hother, decide_true, List.filter_cons_of_pos, List.filter_nil, List.flatMap_cons,
      List.flatMap_nil, List.append_nil, if_true]
    rw [← List.append_assoc, mergeEntries_concat]
  · simp [hother]

theorem declaredTags_of_undeclared (hnone : device ∉ specs.map DeviceSpec.name) :
    declaredTags specs device = [] := by
  have hdeclaring : declaring specs device = [] := by
    rw [declaring, List.filter_eq_nil_iff]
    intro spec hspec hname
    exact hnone (List.mem_map.mpr ⟨spec, hspec, of_decide_eq_true hname⟩)
  rw [declaredTags, hdeclaring]
  rfl

/-- The tags that the declarations of a device come to, those of them that are texts. -/
def declaredPairs : List (String × String) :=
  (declaredTags specs device).filterMap fun tag =>
    match tag.2 with
    | .string text => some (tag.1, text)
    | _ => none

theorem declaredPairs_of_map_asTag {pairs : List (String × String)}
    (htags : pairs.map asTag = declaredTags specs device) : declaredPairs specs device = pairs := by
  rw [declaredPairs, ← htags, List.filterMap_map]
  exact List.filterMap_some

theorem declaredPairs_of_undeclared (hnone : device ∉ specs.map DeviceSpec.name) :
    declaredPairs specs device = [] := by
  rw [declaredPairs, declaredTags_of_undeclared specs device hnone]
  rfl

theorem keys_roster (inventory : Inventory) :
    (inventory.roster specs).map Prod.fst = (specs.map DeviceSpec.name).eraseDups := by
  rw [roster, map_fst_mergeEntries, List.map_map]
  rfl

theorem mem_keys_roster (inventory : Inventory) :
    device ∈ (inventory.roster specs).map Prod.fst ↔ device ∈ specs.map DeviceSpec.name := by
  rw [keys_roster, List.mem_eraseDups]

end Inventory

/-! ## The pairs of a device -/

namespace Store

variable {store after : Store} {c : CacheId} {d e : DeviceId} {t : TagId} {key value : String}

theorem pairs_congr (htags : (after.device d).tags = (store.device d).tags)
    (hpairs : ∀ t ∈ (store.device d).tags, (after.tag t).name = (store.tag t).name ∧
      (after.tag t).value = (store.tag t).value) : after.pairs d = store.pairs d := by
  rw [pairs, pairs, htags]
  refine List.map_congr_left fun t ht => ?_
  rw [(hpairs t ht).1, (hpairs t ht).2]

theorem Sound.pairs_of_unseen (hsound : store.Sound) (hunseen : Unseen store after)
    (d : DeviceId) : after.pairs d = store.pairs d := by
  refine pairs_congr (hunseen.deviceTags d) fun t ht => ⟨hunseen.tagName t ?_, hunseen.tagValue t⟩
  rw [(hsound.linked.listed d t).mp ht]
  rfl

theorem pairs_setPriority (priority : Priority) (d e : DeviceId) :
    (store.setPriority d priority).pairs e = store.pairs e :=
  pairs_congr ((sameIndex_setPriority d priority).deviceTags e) fun _ _ => ⟨rfl, rfl⟩

theorem pairs_enroll (name : String) (d : DeviceId) :
    (store.enroll c name).pairs d = if d = store.devices.next then [] else store.pairs d := by
  rw [pairs, device_enroll]
  simp only [tag_enroll]
  split <;> rfl

theorem pair_appendTag (d : DeviceId) (key value : String) (u : TagId) :
    (((store.appendTag d key value).tag u).name, ((store.appendTag d key value).tag u).value) =
      if u = store.tags.next then (key, value)
      else ((store.tag u).name, (store.tag u).value) := by
  rw [tag_appendTag]
  split <;> rfl

/-- A new tag comes last. -/
theorem Sound.pairs_appendTag (hsound : store.Sound) (hd : store.devices.Holds d)
    (key value : String) (e : DeviceId) :
    (store.appendTag d key value).pairs e =
      if e = d then store.pairs e ++ [(key, value)] else store.pairs e := by
  have hkept : (store.device e).tags.map (fun t => (((store.appendTag d key value).tag t).name,
      ((store.appendTag d key value).tag t).value)) = store.pairs e := by
    refine List.map_congr_left fun t ht => ?_
    rw [pair_appendTag, if_neg (hsound.linked.mem_device_ne_next ht)]
  rw [pairs, device_appendTag store hd]
  split
  · rw [List.map_append, hkept, List.map_singleton, pair_appendTag, if_pos rfl]
  · exact hkept

/-- A value that is given to the first tag of a name is merged into the pairs. -/
theorem map_firstSet {name text : TagId → String} {tags : List TagId} (honce : tags.Nodup)
    (hfirst : tags.find? (fun u => name u = key) = some t) (value : String) :
    tags.map (fun u => (name u, if u = t then value else text u)) =
      mergeEntry key value (tags.map fun u => (name u, text u)) := by
  induction tags with
  | nil => cases hfirst
  | cons u rest ih =>
    rw [List.nodup_cons] at honce
    rw [List.map_cons, List.map_cons, mergeEntry]
    by_cases hu : name u = key
    · have hut : u = t := by simpa [hu] using hfirst
      subst hut
      have hrest : rest.map (fun v => (name v, if v = u then value else text v)) =
          rest.map fun v => (name v, text v) := by
        refine List.map_congr_left fun v hv => ?_
        rw [if_neg]
        rintro rfl
        exact honce.1 hv
      rw [if_pos rfl, if_pos hu, hrest, hu]
    · have hrest : rest.find? (fun v => name v = key) = some t := by simpa [hu] using hfirst
      have hut : u ≠ t := by
        rintro rfl
        exact honce.1 (List.mem_of_find?_eq_some hrest)
      rw [if_neg hut, if_neg hu, ih honce.2 hrest]

theorem Sound.pairs_setTagValue (hsound : store.Sound)
    (hfirst : store.firstTag? d key = some t) (value : String) (e : DeviceId) :
    (store.setTagValue t value).pairs e =
      if e = d then mergeEntry key value (store.pairs e) else store.pairs e := by
  have ht : t ∈ (store.device d).tags := List.mem_of_find?_eq_some hfirst
  have howner := (hsound.linked.listed d t).mp ht
  have htag : ∀ u, ((store.setTagValue t value).tag u).name = (store.tag u).name ∧
      ((store.setTagValue t value).tag u).value =
        if u = t then value else (store.tag u).value := by
    intro u
    rw [setTagValue, tag_updateTag _ (.inl (holds_tag_of_device howner))]
    split <;> exact ⟨rfl, rfl⟩
  have hpairs : (store.setTagValue t value).pairs e = (store.device e).tags.map fun u =>
      ((store.tag u).name, if u = t then value else (store.tag u).value) := by
    refine List.map_congr_left fun u _ => ?_
    rw [(htag u).1, (htag u).2]
  rw [hpairs]
  split
  · next he =>
    subst he
    exact map_firstSet (hsound.linked.listedOnce e) hfirst value
  · next he =>
    refine List.map_congr_left fun u hu => ?_
    rw [if_neg]
    rintro rfl
    rw [(hsound.linked.listed e u).mp hu, Option.some.injEq] at howner
    exact he howner

/-- A tag that is set is merged into the pairs of its device. -/
theorem Sound.pairs_assignTag (hsound : store.Sound) (hcache : (store.device d).cache = some c)
    (key value : String) (e : DeviceId) :
    (store.assignTag d key value true).pairs e =
      if e = d then mergeEntry key value (store.pairs e) else store.pairs e := by
  unfold Store.assignTag
  cases hfirst : store.firstTag? d key with
  | none =>
    have hnew : key ∉ (store.pairs d).map Prod.fst := by
      rw [pairs, List.map_map, List.mem_map]
      rintro ⟨t, ht, hname⟩
      have hnone := List.find?_eq_none.mp hfirst t ht
      simp only [Function.comp_apply] at hname
      exact hnone (decide_eq_true hname)
    have hmade := hsound.appendTag (holds_device_of_cache hcache) key value
    rw [hmade.pairs_of_unseen (unseen_finish d key _),
      hsound.pairs_appendTag (holds_device_of_cache hcache)]
    split
    · next he =>
      subst he
      rw [mergeEntry_of_not_mem hnew]
    · rfl
  | some first =>
    have hset := hsound.pairs_setTagValue hfirst value e
    have ht := (hsound.linked.listed d first).mp (List.mem_of_find?_eq_some hfirst)
    dsimp only
    split
    · next hvalue => rwa [setTagValue_eq_self (holds_tag_of_device ht) hvalue] at hset
    · rw [if_pos rfl, (hsound.of_sameIndex (sameIndex_setTagValue first value)).pairs_of_unseen
        (unseen_finish d key _), hset]

end Store

/-! ## Caches whose devices have their declared tags -/

/-- A cache shows what declarations come to, and each of its devices has the tags that are declared
for it. -/
structure Mirrors (inventory : Inventory) (c : CacheId) (specs : List DeviceSpec) (store : Store) :
    Prop extends Reflects inventory c specs store where
  tags : ∀ device d, store.Hosts c device d → (store.pairs d).map asTag = declaredTags specs device

variable {inventory : Inventory} {c : CacheId} {specs : List DeviceSpec} {store after : Store}
  {device : String} {d : DeviceId}

theorem Reflects.mem_names (hreflects : Reflects inventory c specs store) (device : String) :
    device ∈ specs.map DeviceSpec.name ↔ ∃ d, store.Hosts c device d := by
  rw [← mem_keys_roster specs device inventory, ← hreflects.members, Store.members, List.map_map,
    List.mem_map]
  exact exists_congr fun d => ⟨fun h => ⟨h.1, h.2⟩, fun h => ⟨h.mem, h.named⟩⟩

/-- The device of a name is found exactly if it is in the cache. -/
theorem Reflects.named?_eq_some_iff (hreflects : Reflects inventory c specs store) :
    Attachment.named? store c device = some d ↔ store.Hosts c device d := by
  constructor
  · exact hosts_of_named?
  · intro hhosts
    cases hfound : Attachment.named? store c device with
    | some e => rw [(hreflects.name_inj hhosts (hosts_of_named? hfound).mem).mp
        (hosts_of_named? hfound).named]
    | none =>
      have hmissing := List.find?_eq_none.mp hfound d hhosts.mem
      exact absurd (decide_eq_true hhosts.named) hmissing

theorem Reflects.named?_eq_none_iff (hreflects : Reflects inventory c specs store) :
    Attachment.named? store c device = none ↔ device ∉ specs.map DeviceSpec.name := by
  rw [hreflects.mem_names, not_exists]
  constructor
  · intro hnone d hhosts
    rw [hreflects.named?_eq_some_iff.mpr hhosts] at hnone
    cases hnone
  · intro hmissing
    cases hfound : Attachment.named? store c device with
    | none => rfl
    | some d => exact absurd (hosts_of_named? hfound) (hmissing d)

theorem Mirrors.pairs_eq (hmirrors : Mirrors inventory c specs store)
    (hhosts : store.Hosts c device d) : store.pairs d = declaredPairs specs device :=
  (declaredPairs_of_map_asTag specs device (hmirrors.tags device d hhosts)).symm

theorem follows_mirrors : Follows inventory c (Mirrors inventory c) where
  reflects hmirrors := hmirrors.toReflects
  unseen {specs before after} hmirrors hunseen :=
    { hmirrors.toReflects.of_unseen hunseen with
      tags := by
        intro device d hhosts
        have hbefore : before.Hosts c device d :=
          ⟨hunseen.cacheDevices c ▸ hhosts.mem, hunseen.deviceName d ▸ hhosts.named⟩
        rw [hmirrors.sound.pairs_of_unseen hunseen, hmirrors.tags device d hbefore] }
  rank {specs store device d} hmirrors hhosts priority :=
    { hmirrors.toReflects.rank hhosts priority with
      tags := by
        intro other e hother
        have hbefore : store.Hosts c other e :=
          ⟨hother.mem, (name_setPriority _ d e).symm.trans hother.named⟩
        rw [pairs_setPriority, declaredTags_concat_nil, hmirrors.tags other e hbefore] }
  enroll {specs store device} hmirrors hmissing priority :=
    { hmirrors.toReflects.enroll hmissing priority with
      tags := by
        intro other e hother
        have hname := (name_setPriority _ store.devices.next e).symm.trans hother.named
        have hmem : e ∈ ((store.enroll c device).cache c).devices := hother.mem
        rw [device_enroll] at hname
        rw [devices_enroll device hmirrors.held, List.mem_append, List.mem_singleton] at hmem
        rw [pairs_setPriority, pairs_enroll, declaredTags_concat_nil]
        split
        · next hnew =>
          rw [if_pos hnew] at hname
          change device = other at hname
          rw [← hname, declaredTags_of_undeclared _ _
            (hmirrors.named?_eq_none_iff.mp hmissing)]
          rfl
        · next hold =>
          rw [if_neg hold] at hname
          exact hmirrors.tags other e ⟨hmem.resolve_right hold, hname⟩ }
  assign {specs store device d priority tags} hmirrors hhosts key value :=
    { hmirrors.toReflects.assign hhosts key value with
      tags := by
        intro other e hother
        have hcache := hmirrors.sound.attached c d hhosts.mem
        have hbefore := (hmirrors.sound.hosts_assignTag hcache key value other e).mp hother
        have hsame : device = other ↔ e = d := by
          rw [← hmirrors.name_inj hhosts hbefore.mem, hbefore.named]
          exact eq_comm
        rw [hmirrors.sound.pairs_assignTag hcache, declaredTags_concat_tag]
        simp only [hsame]
        split
        · rw [map_asTag_mergeEntry, hmirrors.tags other e hbefore]
        · exact hmirrors.tags other e hbefore }

/-- A new cache shows nothing. -/
theorem reflects_newCache {memory : Memory} (hsound : memory.store.Sound)
    (prober : Option Prober) (verifier : Option Verifier) :
    Reflects inventory memory.store.caches.next []
      { memory.store with caches := memory.store.caches.add { prober, verifier } } := by
  have hnew := Store.cache_next_add memory.store { prober, verifier }
  constructor
  case sound => exact hsound.of_sameIndex (Store.sameIndex_addCache prober verifier)
  case held => exact Table.holds_next_add _ _
  case registered =>
    -- A device that points to a cache was given a cache that is there.
    exact fun d hcache => absurd (hsound.held d _ hcache) (Nat.lt_irrefl _)
  case members =>
    rw [Store.members, hnew]
    rfl
  case columns =>
    intro name
    rw [Store.shownEntries, Store.entries, Store.headOf?, hnew]
    rfl
  case headNames =>
    rw [Store.headNames, hnew]
    rfl

theorem mirrors_newCache {memory : Memory} (hsound : memory.store.Sound)
    (prober : Option Prober) (verifier : Option Verifier) :
    Mirrors inventory memory.store.caches.next []
      { memory.store with caches := memory.store.caches.add { prober, verifier } } :=
  { reflects_newCache hsound prober verifier with
    tags := by
      intro device d hhosts
      have hmem := hhosts.mem
      rw [Store.cache_next_add memory.store { prober, verifier }] at hmem
      cases hmem }

end DeviceTags
