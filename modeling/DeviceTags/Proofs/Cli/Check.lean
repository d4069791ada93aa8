import DeviceTags.Proofs.Cli.Query
import DeviceTags.Proofs.Config.Building

/-!
# Checking an accepted configuration

What the loader accepts goes through everything that comes after it: the cache is built, the
inventory is brought in, and the audit of the index finds nothing. The command that checks a
configuration says so and counts what the file declares.
-/

namespace DeviceTags

open FileTree

/-! ## Text without escapes -/

namespace Text

theorem escape_not_mem_decimal (n : Nat) : '\x1b' ∉ decimal n := by
  intro hmem
  have hdigit := Nat.isDigit_of_mem_toDigits (b := 10) (by decide) (by decide) hmem
  exact absurd hdigit (by decide)

end Text

namespace Cli

variable {tree : FileTree} {environment : Environment} {arguments : List String}
  {settings : Settings} {directory : Path} {config : Config} {memory : Memory} {c : CacheId}

/-- What the check prints where nothing is wrong. -/
def soundText (devices types : Nat) : String :=
  "OK: " ++ countText devices ++ " devices, " ++ countText types ++ " tag types"

theorem Toolkit.shown_soundText (kit : Toolkit) (devices types : Nat) :
    kit.shown (soundText devices types) = soundText devices types := by
  refine kit.shown_plain _ ?_
  have hdevices := Text.escape_not_mem_decimal devices
  have htypes := Text.escape_not_mem_decimal types
  simp [soundText, countText, hdevices, htypes]

/-- The check of a cache that a valid configuration gave goes through and finds nothing. -/
theorem goes_check (host : Host) (json : Bool) (hvalid : config.Valid)
    (hmade : config.Made c memory.store) :
    GoesThrough (check host json c) memory fun reply _ =>
      reply.status = 0 ∧ (json = false → reply.text = some (soundText
        (config.devices.map DeviceSpec.name).dedup.length
        (config.devices.flatMap fun spec => spec.tags.map Prod.fst).dedup.length)) := by
  unfold check
  refine (goes_ensureProbed host hvalid hmade).bind fun _ filled hfilled => ?_
  have hnone := Audit.problems_eq_nil_iff.mpr (hfilled.sound.clean hfilled.registered)
  refine .look_bind (.look_bind (.pure ?_))
  rw [hnone, hfilled.length_devices, hfilled.length_heads]
  refine ⟨rfl, ?_⟩
  rintro rfl
  rfl

/-- Whatever configuration can be loaded, its cache is built, its inventory is brought in, and the
audit finds nothing; checking it on the command line counts the distinct device names and the
distinct tag names that the file declares. -/
theorem loaded_passes_check (hload : outcome (Config.load files directory) tree = (.ok config, tree)) :
    (∀ memory, Reachable memory → memory.supply = .unlimited →
      ∃ c built, config.buildCache memory = .ok c built ∧
        ∃ filled, config.inventory.probe c built = .ok () filled ∧
          Audit.problems filled.store c = [] ∧
          (filled.store.cache c).devices.length =
            (config.devices.map DeviceSpec.name).dedup.length ∧
          (filled.store.cache c).heads.length =
            (config.devices.flatMap fun spec => spec.tags.map Prod.fst).dedup.length) ∧
    ∀ (kit : Toolkit) environment clock arguments settings,
      Asks kit environment arguments settings .check directory →
      ∃ execution, outcome (run kit files environment clock arguments) tree = (.ok execution, tree) ∧
        execution.status = 0 ∧
        (settings.json = false → execution.output = .text (soundText
          (config.devices.map DeviceSpec.name).dedup.length
          (config.devices.flatMap fun spec => spec.tags.map Prod.fst).dedup.length ++ "\n")) := by
  have hvalid := Config.valid_of_load hload
  constructor
  · rintro memory ⟨arrivals, hrun⟩ hsupply
    obtain ⟨c, built, hbuild, hspare, hmade⟩ :=
      (goes_buildCache hrun.sound.1 hvalid).exists_ok hsupply
    obtain ⟨_, filled, hprobe, -, hfilled⟩ := (hmade.goes_probe hvalid).exists_ok hspare
    exact ⟨c, built, hbuild, filled, hprobe, hfilled⟩
  · intro kit environment clock arguments settings hasks
    have hstart : ({} : Memory).store.Sound := Store.sound_empty
    obtain ⟨c, built, hbuild, hspare, hmade⟩ :=
      (goes_buildCache hstart hvalid).exists_ok rfl
    obtain ⟨reply, after, hcheck, -, hstatus, htext⟩ :=
      (goes_check (hostOf tree config) settings.json hvalid hmade).exists_ok hspare
    refine ⟨reply.execution kit.shown (recordNotices (loggingOf environment settings) after), ?_,
      hstatus, ?_⟩
    · rw [outcome_run hasks hload]
      exact outcome_askCache hbuild hcheck
    · intro hjson
      rw [Reply.execution, htext hjson]
      dsimp only
      rw [kit.shown_soundText]

/-- A device that is declared twice is counted once, and so is a tag that two devices have. -/
theorem twins_pass_check :
    (∃ c built, Config.twins.buildCache {} = .ok c built ∧
      ∃ filled, Config.twins.inventory.probe c built = .ok () filled ∧
        (filled.store.cache c).devices.length = 2 ∧ (filled.store.cache c).heads.length = 1) ∧
    ∃ execution, outcome (run .standard files (environmentAt "/") "" ["check"])
        (Config.treeHolding Config.twinsText) = (.ok execution, Config.treeHolding Config.twinsText) ∧
      execution.status = 0 ∧ execution.output = .text "OK: 2 devices, 1 tag types\n" := by
  obtain ⟨hlibrary, hcommand⟩ := loaded_passes_check Config.load_twins
  have hempty : Reachable {} := ⟨[], .start⟩
  obtain ⟨c, built, hbuild, filled, hprobe, -, hdevices, hheads⟩ := hlibrary {} hempty rfl
  refine ⟨⟨c, built, hbuild, filled, hprobe, hdevices, hheads⟩, ?_⟩
  obtain ⟨execution, hrun, hstatus, houtput⟩ :=
    hcommand .standard (environmentAt "/") "" ["check"] ⟨false, false, none⟩ asks_check
  refine ⟨execution, hrun, hstatus, (houtput rfl).trans ?_⟩
  decide +kernel

end Cli

end DeviceTags
