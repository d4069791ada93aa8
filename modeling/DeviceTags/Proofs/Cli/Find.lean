import DeviceTags.Proofs.Cli.Check
import DeviceTags.Proofs.Lookup.Declared

/-!
# Finding a declared device

From the file to the answer: which device name a lookup gives in the cache of a configuration that
does not check paths, and what the command prints, are told by the declarations in the file.
-/

namespace DeviceTags.Cli

open FileTree

variable {tree : FileTree} {directory : Path} {config : Config} {name value : String}

/-- The reply that tells what a lookup found. -/
def foundReply (json : Bool) : Option String → Reply
  | none => .notFound
  | some device => .printing (either json device (.object [("device", .string device)]))

theorem goes_find {memory : Memory} {c : CacheId} (host : Host) (json : Bool)
    (hvalid : config.Valid) (htrusting : config.verifyPaths = false)
    (hmade : config.Made c memory.store) (hname : name ≠ "") (value : String) :
    GoesThrough (find host json c name (some value)) memory fun reply _ =>
      ∃ found, reply = foundReply json found ∧
        ((found = none ∧ ∀ device, ¬ config.inventory.Carries name value device) ∨
          ∃ device, found = some device ∧ config.inventory.Wins name value device) := by
  unfold find
  refine (Lookup.goes_deviceName hvalid htrusting hmade hname value).bind fun found _ hfound => ?_
  cases found with
  | none => exact .pure ⟨none, rfl, hfound⟩
  | some device => exact .pure ⟨some device, rfl, hfound⟩

/-- In the cache of a configuration that does not check paths, a lookup gives the name of the device
that wins by the declarations of the file, and none if no declared device has the tag; the command
prints the name, or ends with the status for that. -/
theorem loaded_finds_winner
    (hload : outcome (Config.load files directory) tree = (.ok config, tree))
    (htrusting : config.verifyPaths = false) (hname : name ≠ "") (value : String) :
    (∀ memory host, Reachable memory → memory.supply = .unlimited →
      ∃ c built found after, config.buildCache memory = .ok c built ∧
        Lookup.deviceName host (some c) (some name) (some value) built = .ok found after ∧
        (found = none ↔ ∀ device, ¬ config.inventory.Carries name value device) ∧
        ∀ device, found = some device ↔ config.inventory.Wins name value device) ∧
    ∀ (kit : Toolkit) environment clock arguments settings,
      Asks kit environment arguments settings (.find name (some value)) directory →
      ∃ execution, outcome (run kit files environment clock arguments) tree = (.ok execution, tree) ∧
        ((∀ device, ¬ config.inventory.Carries name value device) →
          execution.status = 2 ∧ execution.output = .nothing) ∧
        ∀ device, config.inventory.Wins name value device → execution.status = 0 ∧
          (settings.json = false →
            execution.output = .text (kit.shown device ++ "\n")) := by
  have hvalid := Config.valid_of_load hload
  constructor
  · rintro memory host ⟨arrivals, hrun⟩ hsupply
    obtain ⟨c, built, hbuild, hspare, hmade⟩ :=
      (goes_buildCache hrun.sound.1 hvalid).exists_ok hsupply
    obtain ⟨found, after, hfind, -, hfound⟩ :=
      (Lookup.goes_deviceName hvalid htrusting hmade hname value).exists_ok hspare
    refine ⟨c, built, found, after, hbuild, hfind, ?_⟩
    rcases hfound with ⟨rfl, hnone⟩ | ⟨winner, rfl, hwins⟩
    · refine ⟨⟨fun _ => hnone, fun _ => rfl⟩, fun device => ⟨fun h => (nomatch h), fun hwins => ?_⟩⟩
      exact absurd hwins.carries (hnone device)
    · refine ⟨⟨fun h => (nomatch h), fun hnone => absurd hwins.carries (hnone winner)⟩, ?_⟩
      intro device
      rw [Option.some.injEq]
      constructor
      · rintro rfl
        exact hwins
      · exact fun hdevice => hdevice.unique hwins
  · intro kit environment clock arguments settings hasks
    have hstart : ({} : Memory).store.Sound := Store.sound_empty
    obtain ⟨c, built, hbuild, hspare, hmade⟩ := (goes_buildCache hstart hvalid).exists_ok rfl
    obtain ⟨reply, after, hfind, -, found, rfl, hfound⟩ :=
      (goes_find (hostOf tree config) settings.json hvalid htrusting hmade hname value).exists_ok
        hspare
    refine ⟨(foundReply settings.json found).execution kit.shown
      (recordNotices (loggingOf environment settings) after), ?_, ?_, ?_⟩
    · rw [outcome_run hasks hload]
      exact outcome_askCache hbuild hfind
    · intro hnone
      rcases hfound with ⟨rfl, -⟩ | ⟨winner, -, hwins⟩
      · exact ⟨rfl, rfl⟩
      · exact absurd hwins.carries (hnone winner)
    · intro device hdevice
      rcases hfound with ⟨-, hnone⟩ | ⟨winner, rfl, hwins⟩
      · exact absurd hdevice.carries (hnone device)
      · cases hdevice.unique hwins
        refine ⟨rfl, fun hjson => ?_⟩
        rw [hjson]
        rfl

/-- The last declaration of the device that is declared first gives it the lower priority. -/
theorem twins_wins : Config.twins.inventory.Wins "L" "x" "sdb" where
  carries := rfl
  first other hne hcarries := by
    by_cases hother : other = "sda"
    · subst hother
      exact .inl (by decide +kernel)
    · have hnone : Inventory.declaring Config.twins.devices other = [] := by
        simp [Inventory.declaring, Config.twins, Ne.symm hne, Ne.symm hother]
      have htags : Inventory.declaredTags Config.twins.devices other = [] := by
        rw [Inventory.declaredTags, hnone]
        rfl
      rw [Inventory.Carries, show Config.twins.inventory.devices = Config.twins.devices from rfl,
        htags] at hcarries
      cases hcarries

theorem asks_find : Asks .standard (environmentAt "/") ["find", "L", "x"] ⟨false, false, none⟩
    (.find "L" (some "x")) Config.rootDirectory where
  command := by decide +kernel
  directory := asks_check.directory

theorem twins_finds_second :
    ∃ execution, outcome (run .standard files (environmentAt "/") "" ["find", "L", "x"])
        (Config.treeHolding Config.twinsText) = (.ok execution, Config.treeHolding Config.twinsText) ∧
      execution.status = 0 ∧ execution.output = .text "sdb\n" := by
  obtain ⟨-, hcommand⟩ := loaded_finds_winner Config.load_twins rfl (by decide : "L" ≠ "") "x"
  obtain ⟨execution, hrun, -, hprints⟩ :=
    hcommand .standard (environmentAt "/") "" ["find", "L", "x"] ⟨false, false, none⟩ asks_find
  obtain ⟨hstatus, houtput⟩ := hprints "sdb" twins_wins
  have hplain : Toolkit.standard.shown "sdb" = "sdb" := Toolkit.standard.shown_plain _ (by decide)
  rw [hplain] at houtput
  exact ⟨execution, hrun, hstatus, houtput rfl⟩

end DeviceTags.Cli
