import DeviceTags.Cli.Answer
import DeviceTags.Config.Cache
import DeviceTags.Proofs.Config.Document
import DeviceTags.Proofs.Inventory.Pairs

/-!
# The cache of a valid configuration

With memory to spare, a valid configuration gives a cache: an empty one that has the inventory as its
prober, or one that reflects the inventory and has no prober. Either way the cache reflects the
inventory once it was filled, and filling it a second time brings no device and no tag name in.
-/

namespace DeviceTags

variable {config : Config} {memory : Memory} {c : CacheId}

/-- What an operation does and that it advances the store, in one. -/
theorem GoesThrough.advancing {α : Type} {operation : Op α} {done : α → Store → Prop}
    {result : α → Memory → Prop} (hgoes : GoesThrough operation memory done)
    (hadvances : Advances Memory.store operation memory result) :
    GoesThrough operation memory fun value store =>
      done value store ∧ memory.store.Advance store := by
  intro hsupply
  have hdone := hgoes hsupply
  unfold Advances Does at *
  split at hadvances
  · next hrun =>
    rw [hrun] at hdone
    exact ⟨hdone.1, hdone.2, hadvances.1⟩
  · next hrun =>
    rw [hrun] at hdone
    exact hdone.elim

/-- A cache as a configuration makes it: with its collaborators, and either empty or probed. -/
structure Config.Made (config : Config) (c : CacheId) (store : Store) : Prop where
  reflects : Reflects config.inventory c (if config.probeOnMiss then [] else config.devices) store
  prober : (store.cache c).prober =
    if config.probeOnMiss then some (.inventory config.inventory) else none
  verifier : (store.cache c).verifier = some config.verifier
  probed : (store.cache c).probed = !config.probeOnMiss

section Following

variable {shows : CacheId → List DeviceSpec → Store → Prop}
  (hfollows : ∀ c, Follows config.inventory c (shows c))

include hfollows

/-- The cache that is made follows the declarations that were brought into it by then. -/
theorem goes_buildCache_following (hvalid : config.Valid)
    (hnew : ∀ prober, shows memory.store.caches.next [] { memory.store with
      caches := memory.store.caches.add { prober, verifier := some config.verifier } }) :
    GoesThrough config.buildCache memory fun c store => config.Made c store ∧
      shows c (if config.probeOnMiss then [] else config.devices) store := by
  unfold Config.buildCache
  cases hprobe : config.probeOnMiss with
  | true =>
    refine (goes_newCache _).mono fun c store hmade => ?_
    obtain ⟨rfl, rfl⟩ := hmade
    have hcache := Store.cache_next_add memory.store
      { prober := some (.inventory config.inventory), verifier := some config.verifier }
    refine ⟨⟨?_, ?_, ?_, ?_⟩, hnew _⟩
    · rw [hprobe]
      exact (hfollows _).reflects (hnew _)
    · rw [hcache, hprobe]
      rfl
    · rw [hcache]
    · rw [hcache, hprobe]
      rfl
  | false =>
    refine (goes_newCache _).bind fun c made hmade => ?_
    obtain ⟨rfl, hstore⟩ := hmade
    have hshows : shows memory.store.caches.next [] made.store := by
      rw [hstore]
      exact hnew none
    have hreflects := (hfollows _).reflects hshows
    have hprobes := ((hfollows _).goes_probe hvalid.devices hshows).advancing
      (advances_inventory config.inventory hreflects.sound hreflects.held)
    refine hprobes.bind fun _ probed hprobed => .pure ?_
    obtain ⟨⟨hfilled, hdone⟩, hadvance⟩ := hprobed
    have hcache := Store.cache_next_add memory.store { verifier := some config.verifier }
    refine ⟨⟨?_, ?_, ?_, ?_⟩, hfilled⟩
    · rw [hprobe]
      exact (hfollows _).reflects hfilled
    · rw [hadvance.collaborators.prober, hstore, hcache, hprobe]
      rfl
    · rw [hadvance.collaborators.verifier, hstore, hcache]
    · rw [hdone, hprobe]
      rfl

/-- The cache is filled when it is needed, if it was not before. -/
theorem goes_ensureProbed_following (host : Host) (hvalid : config.Valid)
    (hmade : config.Made c memory.store)
    (hshows : shows c (if config.probeOnMiss then [] else config.devices) memory.store) :
    GoesThrough (Cli.ensureProbed host c) memory fun _ store => shows c config.devices store := by
  unfold Cli.ensureProbed
  apply GoesThrough.look_bind
  rw [hmade.prober, hmade.probed]
  cases hprobe : config.probeOnMiss with
  | true =>
    rw [hprobe] at hshows
    exact ((hfollows c).goes_probe hvalid.devices hshows).mono fun _ _ hdone => hdone.1
  | false =>
    rw [hprobe] at hshows
    exact .pure hshows

end Following

theorem goes_buildCache (hsound : memory.store.Sound) (hvalid : config.Valid) :
    GoesThrough config.buildCache memory fun c store => config.Made c store :=
  (goes_buildCache_following (fun _ => follows_reflects) hvalid
    fun _ => reflects_newCache hsound _ _).mono fun _ _ hmade => hmade.1

theorem goes_ensureProbed (host : Host) (hvalid : config.Valid)
    (hmade : config.Made c memory.store) :
    GoesThrough (Cli.ensureProbed host c) memory fun _ store =>
      Reflects config.inventory c config.devices store :=
  goes_ensureProbed_following (fun _ => follows_reflects) host hvalid hmade hmade.reflects

/-- With memory to spare the cache is made and filled, and then shows what the file declares. -/
theorem Config.exists_filled (host : Host) (hsound : memory.store.Sound)
    (hsupply : memory.supply = .unlimited) (hvalid : config.Valid) :
    ∃ c built filled, config.buildCache memory = .ok c built ∧ built.supply = .unlimited ∧
      config.Made c built.store ∧ Cli.ensureProbed host c built = .ok () filled ∧
      Mirrors config.inventory c config.devices filled.store := by
  have hfollows (c : CacheId) : Follows config.inventory c (Mirrors config.inventory c) :=
    follows_mirrors
  obtain ⟨c, built, hbuild, hspare, hmade, hmirrors⟩ :=
    (goes_buildCache_following hfollows hvalid
      fun _ => mirrors_newCache hsound _ _).exists_ok hsupply
  obtain ⟨_, filled, hfill, -, hfilled⟩ :=
    (goes_ensureProbed_following hfollows host hvalid hmade hmirrors).exists_ok hspare
  exact ⟨c, built, filled, hbuild, hspare, hmade, hfill, hfilled⟩

/-! ## What is counted -/

variable {inventory : Inventory} {specs : List DeviceSpec} {store : Store}

theorem Reflects.length_devices (hreflects : Reflects inventory c specs store) :
    (store.cache c).devices.length = (specs.map DeviceSpec.name).dedup.length := by
  rw [← Inventory.length_roster, ← hreflects.members, Store.members, List.length_map]

theorem Reflects.length_heads (hreflects : Reflects inventory c specs store) :
    (store.cache c).heads.length =
      (specs.flatMap fun spec => spec.tags.map Prod.fst).dedup.length := by
  rw [← Inventory.length_tagNames, ← hreflects.headNames, Store.headNames, List.length_map]

/-- Filling the cache, as often as one likes, gives it the declared devices and tag names. -/
theorem Config.Made.goes_probe (hmade : config.Made c memory.store) (hvalid : config.Valid) :
    GoesThrough (config.inventory.probe c) memory fun _ store =>
      Audit.problems store c = [] ∧
      (store.cache c).devices.length = (config.devices.map DeviceSpec.name).dedup.length ∧
      (store.cache c).heads.length =
        (config.devices.flatMap fun spec => spec.tags.map Prod.fst).dedup.length := by
  refine (goes_inventory hvalid.devices hmade.reflects).mono fun _ store hdone => ?_
  obtain ⟨hreflects, -⟩ := hdone
  refine ⟨Audit.problems_eq_nil_iff.mpr (hreflects.sound.clean hreflects.registered), ?_, ?_⟩
  · rw [hreflects.length_devices]
    split
    · rfl
    · rw [List.map_append]
      exact congrArg List.length (List.Subset.dedup_append_right (List.Subset.refl _))
  · rw [hreflects.length_heads]
    split
    · rfl
    · rw [List.flatMap_append]
      exact congrArg List.length (List.Subset.dedup_append_right (List.Subset.refl _))

end DeviceTags
