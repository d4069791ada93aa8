import DeviceTags.Proofs.Cli.Find
import DeviceTags.Proofs.FileTree
import DeviceTags.Proofs.Twin.Query

/-!
# Filling the cache at once or on a miss

A configuration says whether its cache is filled when it is made or by the first lookup that finds
nothing. Nobody who looks devices up can tell: every lookup gives the same, from the first search on
the two caches hold the same, and every command prints the same.
-/

namespace DeviceTags

open FileTree

/-- Stores that differ in nothing but the probers of caches. -/
structure Store.SameButProbers (first second : Store) : Prop where
  tags : first.tags = second.tags
  heads : first.heads = second.heads
  devices : first.devices = second.devices
  caches : ∀ c, ∃ prober, first.cache c = { second.cache c with prober }

theorem Memory.Alike.sameButProbers {c : CacheId} {prober : Option Prober}
    {verifier : Option Verifier} {known : Prop} {first second : Memory}
    (halike : Memory.Alike c prober verifier known first second) :
    first.store.SameButProbers second.store := by
  rw [halike.store]
  exact ⟨rfl, rfl, rfl, exists_cache_withProber second.store⟩

namespace Config

variable {config : Config} {memory : Memory}

/-- The configuration with the other way of filling the cache, or with the same. -/
def filling (config : Config) (onMiss : Bool) : Config := { config with probeOnMiss := onMiss }

theorem verifier_ne_custom (number : Nat) : config.verifier ≠ .custom number := by
  unfold verifier
  split
  · exact fun h => nomatch h
  · exact fun h => nomatch h

/-- A cache that is made with a prober is one that was made without and got it afterwards. -/
theorem withProber_newCache (store : Store) (prober : Option Prober) (verifier : Option Verifier) :
    ({ store with caches := store.caches.add { prober, verifier } } : Store) =
      ({ store with caches := store.caches.add { verifier } } : Store).withProber
        store.caches.next prober := by
  unfold Store.withProber Store.updateCache
  rw [Table.update_next_add]

/-- Both ways of filling give a cache: one that waits to be filled, and the full one. -/
theorem exists_awaiting (memory : Memory) (hsound : memory.store.Sound)
    (hsupply : memory.supply = .unlimited)
    (hvalid : config.Valid) :
    ∃ c start lazy eager, (config.filling true).buildCache memory = .ok c lazy ∧
      (config.filling false).buildCache memory = .ok c eager ∧
      Filling config.inventory c start eager ∧
      Memory.Awaits config.inventory c config.verifier start eager lazy eager := by
  let c := memory.store.caches.next
  let caches := memory.store.caches.add { verifier := some config.verifier }
  let start : Memory := { memory with store := { memory.store with caches } }
  have hnew : start.store.cache c = { verifier := some config.verifier } :=
    Store.cache_next_add memory.store _
  have hreflects : Reflects config.inventory c [] start.store := reflects_newCache hsound none _
  obtain ⟨_, eager, hprobe, -, -, hprobed⟩ :=
    (goes_inventory hvalid.devices hreflects).exists_ok hsupply
  refine ⟨c, start, _, eager, rfl, ?_, ⟨hprobe, ?_, ?_, hprobed⟩, ⟨?_, .refl eager⟩⟩
  · have hstart : Op.newCache { verifier := some config.verifier } memory = .ok c start := rfl
    change (Op.newCache { verifier := some config.verifier } >>= fun c => do
      config.inventory.probe c
      return c) memory = _
    rw [Op.bind_of_ok hstart, Op.bind_of_ok hprobe]
    rfl
  · rw [hnew]
  · rw [hnew]
  · refine ⟨withProber_newCache _ _ _, rfl, ?_, ?_, False.elim, ?_⟩
    · rw [hnew]
    · rw [hnew]
    · exact Table.holds_next_add _ _

end Config

namespace Cli

variable {kit : Toolkit} {tree : FileTree} {directory : Path} {config : Config}

theorem hostOf_congr {other : FileTree} {again : Config} (hdevices : again.devices = config.devices)
    (hpaths : ∀ spec ∈ config.devices, other.contains (devicePath none spec.name) =
      tree.contains (devicePath none spec.name)) : hostOf other again = hostOf tree config := by
  have hsame : pathsIn other config.devices = pathsIn tree config.devices :=
    List.map_congr_left fun spec hspec => by rw [hpaths spec hspec]
  rw [hostOf, hdevices, hsame, hostOf]

/-- Where one file says to fill the cache on a miss and the other one says to fill it at once, a run
shows the same. -/
theorem shownBy_run {full : FileTree} (hvalid : config.Valid)
    (hload : outcome (Config.load files directory) tree = (.ok (config.filling true), tree))
    (hfull : outcome (Config.load files directory) full = (.ok (config.filling false), full))
    (hpaths : ∀ spec ∈ config.devices, full.contains (devicePath none spec.name) =
      tree.contains (devicePath none spec.name))
    {environment : Environment} {clock : String} {arguments : List String}
    (hasks : ∀ settings query elsewhere,
      Asks kit environment arguments settings query elsewhere → elsewhere = directory) :
    shownBy (run kit files environment clock arguments) tree =
      shownBy (run kit files environment clock arguments) full := by
  by_cases hasked : ∃ settings query elsewhere,
      Asks kit environment arguments settings query elsewhere
  · obtain ⟨settings, query, elsewhere, hask⟩ := hasked
    obtain rfl := hasks _ _ _ hask
    obtain ⟨c, start, lazy, eager, hlazy, heager, hfilling, hawaits⟩ :=
      Config.exists_awaiting {} Store.sound_empty rfl hvalid
    have hhost : hostOf full (config.filling false) = hostOf tree (config.filling true) :=
      hostOf_congr rfl hpaths
    have hends := answer_alike (hostOf tree (config.filling true)) settings.json
      Config.verifier_ne_custom hfilling hawaits query
    unfold shownBy
    rw [outcome_run hask hload, outcome_run hask hfull, hhost]
    exact shownBy_askCache hlazy heager hends
  · refine shownBy_run_unasked (fun settings query elsewhere hask => ?_) tree full
    exact hasked ⟨settings, query, elsewhere, hask⟩

/-- The two ways of filling the cache of a configuration cannot be told apart: from the same state
both give a cache, whatever is looked up in the one and in the other ends in the same way, and the
stores agree from the first search on. A command shows the same for a file tree where the same paths
exist but the configuration says the other. -/
theorem loaded_filling_unseen
    (hload : outcome (Config.load files directory) tree = (.ok config, tree)) :
    (∀ memory host, Reachable memory → memory.supply = .unlimited →
      ∃ c lazy eager, (config.filling true).buildCache memory = .ok c lazy ∧
        (config.filling false).buildCache memory = .ok c eager ∧
        ∀ inquiries,
          (Inquiry.answers host c inquiries lazy).1 = (Inquiry.answers host c inquiries eager).1 ∧
          (inquiries.any Inquiry.searches →
            (Inquiry.answers host c inquiries lazy).2.store.SameButProbers
              (Inquiry.answers host c inquiries eager).2.store)) ∧
    ∀ other, outcome (Config.load files directory) other =
        (.ok (config.filling !config.probeOnMiss), other) →
      (∀ spec ∈ config.devices, other.contains (devicePath none spec.name) =
        tree.contains (devicePath none spec.name)) →
      ∀ (kit : Toolkit) environment clock arguments,
        (∀ settings query elsewhere,
          Asks kit environment arguments settings query elsewhere → elsewhere = directory) →
        shownBy (run kit files environment clock arguments) tree =
          shownBy (run kit files environment clock arguments) other := by
  have hvalid := Config.valid_of_load hload
  constructor
  · rintro memory host ⟨arrivals, hrun⟩ hsupply
    obtain ⟨c, start, lazy, eager, hlazy, heager, hfilling, hawaits⟩ :=
      Config.exists_awaiting memory hrun.sound.1 hsupply hvalid
    refine ⟨c, lazy, eager, hlazy, heager, fun inquiries => ?_⟩
    obtain ⟨hsame, hlast⟩ :=
      Inquiry.answers_awaiting host Config.verifier_ne_custom hfilling inquiries hawaits
    exact ⟨hsame, fun hsearch => (hlast hsearch).sameButProbers⟩
  · intro other hother hpaths kit environment clock arguments hasks
    have hsame : config.filling config.probeOnMiss = config := rfl
    cases hprobe : config.probeOnMiss with
    | true =>
      rw [hprobe] at hother hsame
      rw [← hsame] at hload
      exact shownBy_run hvalid hload hother hpaths hasks
    | false =>
      rw [hprobe] at hother hsame
      rw [← hsame] at hload
      exact (shownBy_run hvalid hother hload (fun spec hspec => (hpaths spec hspec).symm) hasks).symm

/-- The declarations of the twins in a file that says to fill the cache at once. -/
def promptText : String := "[cache]\nprobe_on_miss=false\n" ++ Config.twinsText

theorem read_promptText : Toml.read promptText =
    .ok (("cache", .table [("probe_on_miss", .boolean false)]) :: Config.twinsDocument) := by
  cbv

theorem load_prompt : outcome (Config.load files Config.rootDirectory)
    (Config.treeHolding promptText) =
      (.ok (Config.twins.filling false), Config.treeHolding promptText) :=
  Config.load_treeHolding read_promptText rfl

/-- The twins have no paths beside the file that declares them. -/
theorem contains_twin (text : String) {device : String} (hdevice : device = "sda" ∨ device = "sdb") :
    (Config.treeHolding text).contains (devicePath none device) = .ok false := by
  rcases hdevice with rfl | rfl
  · have hpath : devicePath none "sda" = ⟨.here, ["sda"]⟩ := by decide +kernel
    rw [hpath]
    exact contains_vacant (by decide) (by decide +kernel) (by decide) rfl
  · have hpath : devicePath none "sdb" = ⟨.here, ["sdb"]⟩ := by decide +kernel
    rw [hpath]
    exact contains_vacant (by decide) (by decide +kernel) (by decide) rfl

/-- The same device is found, whichever of the twins comes first. -/
theorem twins_filling_unseen :
    (∃ c lazy eager, (Config.twins.filling true).buildCache {} = .ok c lazy ∧
      (Config.twins.filling false).buildCache {} = .ok c eager ∧
      (Inquiry.answers (hostOf (Config.treeHolding Config.twinsText) Config.twins) c
        [.deviceName none none, .find (some "L") (some "x")] lazy).2.store.SameButProbers
      (Inquiry.answers (hostOf (Config.treeHolding Config.twinsText) Config.twins) c
        [.deviceName none none, .find (some "L") (some "x")] eager).2.store) ∧
    shownBy (run .standard files (environmentAt "/") "" ["find", "L", "x"])
        (Config.treeHolding Config.twinsText) =
      shownBy (run .standard files (environmentAt "/") "" ["find", "L", "x"])
        (Config.treeHolding promptText) := by
  obtain ⟨hlibrary, hcommand⟩ := loaded_filling_unseen Config.load_twins
  have hempty : Reachable {} := ⟨[], .start⟩
  obtain ⟨c, lazy, eager, hlazy, heager, hsame⟩ :=
    hlibrary {} (hostOf (Config.treeHolding Config.twinsText) Config.twins) hempty rfl
  refine ⟨⟨c, lazy, eager, hlazy, heager, (hsame _).2 (by decide)⟩, ?_⟩
  refine hcommand _ load_prompt (fun spec hspec => ?_) _ _ _ _ fun settings query elsewhere hask => ?_
  · have hname : spec.name = "sda" ∨ spec.name = "sdb" := by
      simp only [Config.twins, List.mem_cons, List.not_mem_nil, or_false] at hspec
      rcases hspec with rfl | rfl | rfl <;> simp
    rw [contains_twin _ hname, contains_twin _ hname]
  · have hcommand := hask.command
    rw [asks_find.command] at hcommand
    cases hcommand
    have hdirectory := hask.directory
    rw [asks_find.directory] at hdirectory
    cases hdirectory
    rfl

end Cli

end DeviceTags
