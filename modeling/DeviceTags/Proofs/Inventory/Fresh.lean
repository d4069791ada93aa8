import DeviceTags.Proofs.Inventory.Pass
import DeviceTags.Proofs.Inventory.Winner

/-!
# A pass over a new cache

What a cache holds that was new when an inventory was brought into it can be said from the
declarations alone: devices, tags, priorities, direct accesses, heads with their entries, and the two
marks of the cache. Repeated declarations are merged as in a table that keeps the order of its keys.
-/

namespace DeviceTags

open Attachment (named?)
open Inventory (declaring column asTag valuesIn tagNames)
open Store (ReadsSame Seats)

variable {inventory : Inventory} {c : CacheId} {store before after : Store} {d e : DeviceId}
  {device name : String}

/-! ## Direct accesses -/

/-- The direct accesses of a device read the first tags of their names. -/
def Store.ReadsFirst (store : Store) (d : DeviceId) : Prop :=
  ∀ which, store.aliasValue d which = (store.pairs d).lookup which.name

theorem Store.ReadsFirst.of_same (hfirst : before.ReadsFirst d)
    (hsame : ∀ name, ReadsSame d name before after) : after.ReadsFirst d := by
  intro which
  rw [(hsame which.name).access which rfl, (hsame which.name).first, hfirst which]

theorem Store.Seats.reads (hseats : Seats c device d before after) (e : DeviceId) (name : String) :
    ReadsSame e name before after := by
  by_cases he : e = d
  · rw [he]
    exact hseats.readsSame name
  · exact (hseats.otherDevices e he).readsSame name

/-- A device that is not there reads nothing. -/
theorem Store.readsFirst_next (store : Store) : store.ReadsFirst store.devices.next := by
  intro which
  rw [Store.aliasValue, Store.pairs, Store.device_next]
  cases which <;> rfl

/-- A text that is set is read at once, by the direct access as by the first tag. -/
theorem Store.Sound.readsFirst_assignTag (hsound : store.Sound) (haliased : store.Aliased)
    (hcache : (store.device d).cache = some c) (key value : String) (hfirst : store.ReadsFirst e) :
    (store.assignTag d key value true).ReadsFirst e := by
  have hfills : Store.Fills d [(key, .string value)] store (store.assignTag d key value true) :=
    hsound.fills_setTag haliased hcache key value
  by_cases he : e = d
  · subst he
    intro which
    by_cases hwhich : which.name = key
    · have hreads := hfills.reads key value List.mem_cons_self
      rw [hreads.access which hwhich, hwhich, hreads.first]
      split
      · next hread => rw [hfirst which, hwhich, hread]
      · rfl
    · have hsame := hfills.otherNames which.name (by simpa using hwhich)
      rw [hsame.access which rfl, hsame.first, hfirst which]
  · exact hfirst.of_same (hfills.otherDevices e he).readsSame

/-- Each device of a cache reads the first tags of its names directly. -/
structure Store.ReadsFirsts (store : Store) (c : CacheId) : Prop where
  aliased : store.Aliased
  devices : ∀ d ∈ (store.cache c).devices, store.ReadsFirst d

theorem along_readsFirsts (inventory : Inventory) (c : CacheId) :
    Along inventory c fun _ store => store.ReadsFirsts c where
  found {specs store device d} hsound hfirsts hnamed priority := by
    have hseats := (hsound.seats_found hnamed).rank (inventory.priorityOf ⟨device, priority, []⟩)
    exact ⟨hseats.advance.aliased hfirsts.aliased,
      fun e he => (hfirsts.devices e he).of_same (hseats.reads e)⟩
  made {specs store device} hsound hc hfirsts hmissing priority := by
    have hseats := (hsound.seats_enroll hc hmissing).rank
      (inventory.priorityOf ⟨device, priority, []⟩)
    refine ⟨hseats.advance.aliased hfirsts.aliased, fun e he => ?_⟩
    have hmem : e ∈ ((store.enroll c device).cache c).devices := he
    rw [Store.devices_enroll device hc, List.mem_append, List.mem_singleton] at hmem
    rcases hmem with hold | rfl
    · exact (hfirsts.devices e hold).of_same (hseats.reads e)
    · exact store.readsFirst_next.of_same (hseats.reads _)
  assigned hsound hfirsts hnamed key value := by
    have hcache := cache_of_named? hsound hnamed
    have hadvance := hsound.advance_setTag (Store.holds_device_of_cache hcache) key (some value) true
    refine ⟨hadvance.aliased hfirsts.aliased, fun e he => ?_⟩
    have hmem := (hsound.look_assignTag hcache key value e).1 ▸ he
    exact hsound.readsFirst_assignTag hfirsts.aliased hcache key value (hfirsts.devices e hmem)
  marked {specs store} hsound hfirsts := by
    refine ⟨⟨hfirsts.aliased.behind, hfirsts.aliased.first⟩, fun e he => ?_⟩
    rw [(Store.sameIndex_markProbed c).cacheDevices] at he
    exact hfirsts.devices e he

/-! ## The mark of a change -/

/-- A cache that was new counts as changed once something was brought into it. -/
theorem along_changed (inventory : Inventory) (c : CacheId) :
    Along inventory c fun specs store => Reflects inventory c specs store ∧
      ((store.cache c).changed = true ↔ specs ≠ []) where
  found {specs store device d} hsound hboth hnamed priority := by
    refine ⟨hboth.1.rank (hosts_of_named? hnamed) priority, ?_⟩
    have hsome : device ∈ specs.map DeviceSpec.name :=
      (hboth.1.mem_names device).mpr ⟨d, hosts_of_named? hnamed⟩
    have hspecs : specs ≠ [] := by
      rintro rfl
      cases hsome
    rw [Store.changed_setPriority]
    exact iff_of_true (hboth.2.mpr hspecs) (List.append_ne_nil_of_right_ne_nil _ (by simp))
  made hsound hc hboth hmissing priority := by
    refine ⟨hboth.1.enroll hmissing priority, ?_⟩
    rw [Store.changed_setPriority]
    exact iff_of_true (Store.changed_enroll hc _) (List.append_ne_nil_of_right_ne_nil _ (by simp))
  assigned hsound hboth hnamed key value := by
    refine ⟨hboth.1.assign (hosts_of_named? hnamed) key value, ?_⟩
    have hchanged := hboth.2.mpr (List.append_ne_nil_of_right_ne_nil _ (by simp))
    exact iff_of_true
      (hsound.changed_of_assignTag (cache_of_named? hsound hnamed) key value hchanged)
      (List.append_ne_nil_of_right_ne_nil _ (by simp))
  marked {specs store} _ hboth :=
    ⟨hboth.1.of_unseen (Store.unseen_markProbed c), by rw [Store.changed_markProbed, hboth.2]⟩

/-! ## What the declarations come to -/

/-- The devices that have a tag of a name stand in the order in which they are first given one. -/
theorem Inventory.keys_column (specs : List DeviceSpec) (name : String) :
    (column specs name).map Prod.fst =
      ((specs.filter fun spec => name ∈ spec.tags.map Prod.fst).map DeviceSpec.name).eraseDups := by
  induction specs using List.reverseRecOn with
  | nil => rfl
  | append_singleton specs spec ih =>
    rw [keys_column_concat, ih, List.filter_append, List.map_append, List.eraseDups_append]
    by_cases hname : name ∈ spec.tags.map Prod.fst
    · have hfilter : [spec].filter (fun spec => name ∈ spec.tags.map Prod.fst) = [spec] := by
        rw [List.filter_eq_self]
        simpa using hname
      rw [hfilter, List.map_singleton]
      by_cases hthere : spec.name ∈ (specs.filter fun spec => name ∈ spec.tags.map Prod.fst).map
          DeviceSpec.name
      · rw [if_pos (.inl (List.mem_eraseDups.mpr hthere))]
        simp [List.removeAll, hthere]
      · rw [if_neg (not_or.mpr ⟨hthere ∘ List.mem_eraseDups.mp, not_not.mpr hname⟩)]
        simp [List.removeAll, hthere, List.eraseDups_cons]
    · have hfilter : [spec].filter (fun spec => name ∈ spec.tags.map Prod.fst) = [] := by
        rw [List.filter_eq_nil_iff]
        simpa using hname
      rw [if_pos (.inr hname), hfilter]
      simp [List.removeAll]

/-- A cache holds what an inventory comes to. -/
structure Inventory.ComesTo (inventory : Inventory) (c : CacheId) (store : Store) : Prop where
  devices : (store.cache c).devices.map (fun d => (store.device d).name) =
    (inventory.devices.map DeviceSpec.name).eraseDups
  tags : ∀ d ∈ (store.cache c).devices, (store.pairs d).map asTag =
    mergeEntries ((declaring inventory.devices (store.device d).name).flatMap DeviceSpec.tags)
  /-- A tag keeps its first place. -/
  places : ∀ d ∈ (store.cache c).devices, (store.pairs d).map Prod.fst =
    (((declaring inventory.devices (store.device d).name).flatMap DeviceSpec.tags).map
      Prod.fst).eraseDups
  /-- And it takes its last value. -/
  values : ∀ d ∈ (store.cache c).devices, ∀ name, ((store.pairs d).lookup name).map Datum.string =
    ((((declaring inventory.devices (store.device d).name).flatMap DeviceSpec.tags).filter
      fun tag => tag.1 = name).map Prod.snd).getLast?
  priority : ∀ d ∈ (store.cache c).devices, some (store.device d).priority =
    (declaring inventory.devices (store.device d).name).getLast?.map inventory.priorityOf
  accesses : ∀ d ∈ (store.cache c).devices, ∀ which,
    store.aliasValue d which = (store.pairs d).lookup which.name
  headNames : store.headNames c =
    (inventory.devices.flatMap fun spec => spec.tags.map Prod.fst).eraseDups
  owners : ∀ name, (store.entries c name).map store.ownerName =
    ((inventory.devices.filter fun spec => name ∈ spec.tags.map Prod.fst).map
      DeviceSpec.name).eraseDups.map some
  entries : ∀ name t, t ∈ store.entries c name ↔
    ∃ d ∈ (store.cache c).devices, t ∈ (store.device d).tags ∧ (store.tag t).name = name
  probed : (store.cache c).probed = true
  changed : (store.cache c).changed = true ↔ inventory.devices ≠ []

theorem Mirrors.comesTo (hmirrors : Mirrors inventory c inventory.devices store)
    (hfirsts : store.ReadsFirsts c) (hprobed : (store.cache c).probed = true)
    (hchanged : (store.cache c).changed = true ↔ inventory.devices ≠ []) :
    inventory.ComesTo c store := by
  have hreflects := hmirrors.toReflects
  have htags : ∀ d ∈ (store.cache c).devices, (store.pairs d).map asTag =
      mergeEntries ((declaring inventory.devices (store.device d).name).flatMap DeviceSpec.tags) :=
    fun d hd => hmirrors.tags (store.device d).name d ⟨hd, rfl⟩
  constructor
  case devices =>
    have hmembers := congrArg (List.map Prod.fst) hreflects.members
    rw [Store.members, List.map_map, Inventory.keys_roster] at hmembers
    exact hmembers
  case tags => exact htags
  case places =>
    intro d hd
    rw [← map_fst_mergeEntries, ← htags d hd, List.map_map]
    rfl
  case values =>
    intro d hd name
    rw [← lookup_mergeEntries, ← htags d hd, Inventory.lookup_map_asTag]
  case priority =>
    intro d hd
    have hmember : ((store.device d).name, (store.device d).priority) ∈
        inventory.roster inventory.devices := by
      rw [← hreflects.members]
      exact List.mem_map_of_mem hd
    rw [← Inventory.lookup_roster, (lookup_eq_some_iff_mem
      (Inventory.nodup_roster _ _)).mpr hmember]
  case accesses => exact hfirsts.devices
  case headNames =>
    rw [hreflects.headNames, Inventory.tagNames, map_fst_mergeEntries, List.map_flatMap]
  case owners =>
    intro name
    have hcolumn := congrArg (List.map Prod.fst) (hreflects.columns name)
    rw [Store.shownEntries, List.map_map, List.map_map, List.map_map] at hcolumn
    rw [← Inventory.keys_column, List.map_map]
    exact hcolumn
  case entries =>
    intro name t
    constructor
    · intro ht
      obtain ⟨d, hd, howner⟩ := hreflects.sound.owner_of_entries hreflects.registered ht
      exact ⟨d, hd, (hreflects.sound.mem_entries_iff hd name t).mp ⟨ht, howner⟩⟩
    · rintro ⟨d, hd, ht⟩
      exact ((hreflects.sound.mem_entries_iff hd name t).mpr ht).1
  case probed => exact hprobed
  case changed => exact hchanged

/-- Makes a cache and brings an inventory into it. -/
def Inventory.intoNew (inventory : Inventory) (host : Host) (record : Cache) : Op CacheId := do
  let c ← Op.newCache record
  (Prober.inventory inventory).probe host c
  return c

/-- A pass over a new cache, whatever was there before, fails for want of memory only. Afterwards the
cache holds what the inventory comes to. -/
theorem fresh_pass_comes_to {memory : Memory} (hreach : Reachable memory) (supply : Supply)
    (host : Host) (prober : Option Prober) (verifier : Option Verifier)
    (hvalid : ∀ spec ∈ inventory.devices, spec.Valid) :
    Does (inventory.intoNew host { prober, verifier }) { memory with supply }
      (fun c after => inventory.ComesTo c after.store)
      fun failure _ => supply ≠ .unlimited ∧ failure.kind.isA .memory := by
  obtain ⟨arrivals, hrun⟩ := hreach
  have hpass : UnlessShort (inventory.intoNew host { prober, verifier }) { memory with supply }
      fun c store => inventory.ComesTo c store := by
    rw [Inventory.intoNew]
    refine (short_newCache _).bind fun c made hmade => ?_
    obtain ⟨rfl, hstore⟩ := hmade
    have hnew := Store.cache_next_add memory.store { prober, verifier }
    have hmirrors : Mirrors inventory memory.store.caches.next [] made.store := by
      rw [hstore]
      exact mirrors_newCache hrun.sound.1 prober verifier
    have hfirsts : made.store.ReadsFirsts memory.store.caches.next := by
      rw [hstore]
      refine ⟨⟨hrun.aliased.behind, hrun.aliased.first⟩, fun d hd => ?_⟩
      rw [hnew] at hd
      cases hd
    have hunchanged : (made.store.cache memory.store.caches.next).changed = true ↔
        ([] : List DeviceSpec) ≠ [] := by
      rw [hstore, hnew]
      simp
    have halong := follows_mirrors.along.and
      ((along_readsFirsts inventory memory.store.caches.next).and
        (along_changed inventory memory.store.caches.next))
    refine (halong.short_probe hvalid hmirrors.sound hmirrors.held
      ⟨hmirrors, hfirsts, hmirrors.toReflects, hunchanged⟩).bind fun _ after hafter => .pure ?_
    obtain ⟨⟨hshown, hreads, -, hchanged⟩, hprobed⟩ := hafter
    exact hshown.comesTo hreads hprobed hchanged
  exact Does.mono hpass (fun _ _ hdone => hdone.2) fun _ _ hfailed => hfailed

/-- An inventory that comes back to its first device. -/
def scattered : Inventory where
  devices := [{ name := "/dev/sda1", priority := some (.integer 5),
                tags := [("LABEL", .string "data"), ("TYPE", .string "ext3")] },
              { name := "/dev/sdb1",
                tags := [("UUID", .string "5678"), ("LABEL", .string "spare")] },
              { name := "/dev/sda1",
                tags := [("UUID", .string "1234"), ("LABEL", .string "root")] }]
  priorities := [("sda", .integer 7)]

/-- The identifiers are listed with the second device first, since the first one gets its own later. -/
theorem scattered_comes_to : ∃ after,
    scattered.intoNew .bare {} { relabelled with supply := .unlimited } = .ok ⟨1⟩ after ∧
    scattered.ComesTo ⟨1⟩ after.store ∧
    after.store.members ⟨1⟩ = [("/dev/sda1", .integer 7), ("/dev/sdb1", .default)] ∧
    (after.store.cache ⟨1⟩).devices.map after.store.pairs =
      [[("LABEL", "root"), ("TYPE", "ext3"), ("UUID", "1234")],
        [("UUID", "5678"), ("LABEL", "spare")]] ∧
    after.store.headNames ⟨1⟩ = ["LABEL", "TYPE", "UUID"] ∧
    (after.store.entries ⟨1⟩ "UUID").map after.store.ownerName =
      [some "/dev/sdb1", some "/dev/sda1"] := by
  have hvalid : ∀ spec ∈ scattered.devices, spec.Valid := by
    intro spec hspec
    simp only [scattered, List.mem_cons, List.not_mem_nil, or_false] at hspec
    rcases hspec with rfl | rfl | rfl
    all_goals exact ⟨by decide, by decide, by simp⟩
  -- The state is known by a name only, so that nothing evaluates the pass on the way.
  obtain ⟨memory, hmemory⟩ : ∃ memory, memory = relabelled := ⟨_, rfl⟩
  have hreach : Reachable memory := hmemory ▸ reachable_relabelled
  rw [← hmemory]
  have hpass := fresh_pass_comes_to hreach .unlimited .bare none none hvalid
  obtain ⟨c, after, hrun, hcomes⟩ := hpass.exists_ok_of_not fun _ _ hfailed => hfailed.1 rfl
  have hvalue : (match scattered.intoNew .bare {} { memory with supply := .unlimited } with
      | .ok c _ => some c
      | .error _ _ => none) = some ⟨1⟩ := by
    rw [hmemory]
    decide +kernel
  rw [hrun, Option.some.injEq] at hvalue
  subst hvalue
  have hafter : after = (scattered.intoNew .bare {}).after
      { relabelled with supply := .unlimited } := by
    rw [← hmemory, Op.after, hrun]
  refine ⟨after, hrun, hcomes, ?_⟩
  rw [hafter]
  refine ⟨?_, ?_, ?_, ?_⟩
  all_goals decide +kernel

end DeviceTags
