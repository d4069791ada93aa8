import DeviceTags.Proofs.Cli.Check
import DeviceTags.Proofs.Twin.Query

/-!
# The listing commands

Once the cache is filled, the commands that list print what the file declares: the line of a device
shows its declared tags, the list is all of these lines in the order in which the devices are first
declared, and the value of a tag is the one that the line of its device shows first.
-/

namespace DeviceTags

open FileTree Inventory

/-! ## Lines that are shown -/

/-- The lines of a text are shown one by one. -/
theorem Cli.Toolkit.shown_lines (kit : Toolkit) {lines : List String} (hsome : lines ≠ []) :
    kit.shown ("\n".intercalate lines) ++ "\n" =
      String.join (lines.map fun line => kit.shown line ++ "\n") := by
  induction lines with
  | nil => exact absurd rfl hsome
  | cons line rest ih =>
    cases rest with
    | nil => simp
    | cons next rest =>
      rw [String.intercalate_cons_cons, kit.shown_line, String.append_assoc,
        ih (List.cons_ne_nil _ _)]
      exact String.join_cons.symm

/-! ## What is listed -/

namespace Cli

variable {kit : Toolkit} {tree : FileTree} {environment : Environment} {clock : String}
  {arguments : List String} {settings : Settings} {directory : Path} {config : Config} {host : Host}
  {json : Bool} {c : CacheId} {built filled : Memory} {name device : String}

/-- The names of the declared devices, in the order in which they are first declared. -/
def listedNames (config : Config) : List String :=
  (config.devices.map DeviceSpec.name).eraseDups

/-- What is printed for a declared device. -/
def printedTags (kit : Toolkit) (config : Config) (device : String) : String :=
  kit.shown (deviceLine device (declaredPairs config.devices device)) ++ "\n"

/-- The reply to a lookup that gives a text or nothing. -/
def valueReply : Option String → Reply
  | some text => .printing text
  | none => .notFound

/-- What is shown for such a lookup. -/
def shownText (kit : Toolkit) : Option String → Nat × Output
  | some text => (0, .text (kit.shown text ++ "\n"))
  | none => (2, .nothing)

theorem shown_valueReply (kit : Toolkit) (found : Option String) :
    ((valueReply found).execution kit.shown []).shown = shownText kit found := by
  cases found <;> rfl

/-- The devices of a filled cache are those that are listed, and each of them has its declared
pairs. -/
theorem map_deviceText (hmirrors : Mirrors config.inventory c config.devices filled.store) :
    (filled.store.cache c).devices.map filled.store.deviceText =
      (listedNames config).map fun device =>
        deviceLine device (declaredPairs config.devices device) := by
  have hnames : (filled.store.cache c).devices.map (fun d => (filled.store.device d).name) =
      listedNames config := by
    rw [listedNames, ← keys_roster config.devices config.inventory, ← hmirrors.members,
      Store.members, List.map_map]
    rfl
  rw [← hnames, List.map_map]
  refine List.map_congr_left fun d hd => ?_
  rw [Store.deviceText, hmirrors.pairs_eq ⟨hd, rfl⟩]
  rfl

theorem listedNames_ne_nil (hdeclares : config.devices ≠ []) : listedNames config ≠ [] := by
  obtain ⟨spec, hspec⟩ := List.exists_mem_of_ne_nil _ hdeclares
  exact List.ne_nil_of_mem (List.mem_eraseDups.mpr (List.mem_map_of_mem hspec))

section Answers

variable (hfill : ensureProbed host c built = .ok () filled)
  (hmirrors : Mirrors config.inventory c config.devices filled.store)

include hfill hmirrors

theorem list_apply (hdeclares : config.devices ≠ []) :
    list host false c built = .ok (.printing ("\n".intercalate ((listedNames config).map
      fun device => deviceLine device (declaredPairs config.devices device)))) filled := by
  have htexts := map_deviceText hmirrors
  have hsome : ¬ (filled.store.cache c).devices.isEmpty := by
    intro hempty
    rw [List.isEmpty_iff.mp hempty] at htexts
    exact listedNames_ne_nil hdeclares (List.map_eq_nil_iff.mp htexts.symm)
  rw [list, Op.bind_of_ok hfill, ← htexts]
  change (if (filled.store.cache c).devices.isEmpty then _ else _ : Op Reply) filled = _
  rw [if_neg hsome]
  rfl

omit hfill in
/-- A device is found in the filled cache exactly if it is listed. -/
theorem find_listed (hdevice : device ≠ "") :
    ∃ found, Attachment.find c (some device) filled = .ok found filled ∧
      match found with
      | none => device ∉ listedNames config ∧ declaredPairs config.devices device = []
      | some d => device ∈ listedNames config ∧
          filled.store.pairs d = declaredPairs config.devices device := by
  refine ⟨Attachment.named? filled.store c device, find_named c hdevice, ?_⟩
  · rw [listedNames, List.mem_eraseDups]
    split
    · next hnone =>
      have hmissing := hmirrors.named?_eq_none_iff.mp hnone
      exact ⟨hmissing, declaredPairs_of_undeclared _ _ hmissing⟩
    · next d hfound =>
      have hhosts := hmirrors.named?_eq_some_iff.mp hfound
      exact ⟨(hmirrors.mem_names device).mpr ⟨d, hhosts⟩, hmirrors.pairs_eq hhosts⟩

theorem tags_apply (json : Bool) (hdevice : device ≠ "") :
    tags host json c device built = .ok (if device ∈ listedNames config then
        .printing (either json (deviceLine device (declaredPairs config.devices device))
          (.object [("device", .string device),
            ("tags", .array ((declaredPairs config.devices device).map pairJson))]))
      else .notFound) filled := by
  obtain ⟨found, hfind, hfound⟩ := find_listed hmirrors hdevice
  rw [tags, Op.bind_of_ok hfill, Op.bind_of_ok hfind]
  cases found with
  | none =>
    rw [if_neg hfound.1]
    rfl
  | some d =>
    obtain ⟨hlisted, hpairs⟩ := hfound
    rw [if_pos hlisted, ← hpairs]
    rfl

/-- The value of a tag is the first one under its name; the name is looked at only if the device is
there. -/
theorem value_apply (name : String) (hdevice : device ≠ "") :
    value host c name device built =
      if name = "" ∧ device ∈ listedNames config then .error (.tagNameInvalid (.string "")) filled
      else .ok (valueReply ((declaredPairs config.devices device).lookup name)) filled := by
  obtain ⟨found, hfind, hfound⟩ := find_listed hmirrors hdevice
  rw [value, Op.bind_of_ok hfill, Lookup.tagValue]
  cases found with
  | none =>
    rw [if_neg fun h => hfound.1 h.2, hfound.2]
    simp only [bind_assoc]
    rw [Op.bind_of_ok hfind]
    rfl
  | some d =>
    obtain ⟨hlisted, hpairs⟩ := hfound
    simp only [bind_assoc]
    rw [Op.bind_of_ok hfind, ← hpairs, Store.lookup_pairs]
    by_cases hname : name = ""
    · rw [if_pos ⟨hname, hlisted⟩, hname]
      rfl
    · rw [if_neg fun h => hname h.1]
      dsimp only
      simp only [bind_assoc]
      rw [Op.bind_of_ok (find_firstTag d hname)]
      cases filled.store.firstTag? d name <;> rfl

omit hmirrors in
theorem tags_unnamed (json : Bool) :
    tags host json c "" built = .error .deviceNameRequired filled := by
  rw [tags, Op.bind_of_ok hfill]
  rfl

omit hmirrors in
theorem value_unnamed (name : String) :
    value host c name "" built = .error .deviceNameRequired filled := by
  rw [value, Op.bind_of_ok hfill]
  rfl

end Answers

/-! ## Runs -/

section Runs

variable {query : Query} {reply : Reply} {after : Memory}

/-- A run shows what its query answers. -/
theorem shownBy_answered (hasks : Asks kit environment arguments settings query directory)
    (hload : outcome (Config.load files directory) tree = (.ok config, tree))
    (hbuild : config.buildCache {} = .ok c built)
    (hanswer : query.answer (hostOf tree config) settings.json c built = .ok reply after) :
    shownBy (run kit files environment clock arguments) tree =
      .ok (reply.execution kit.shown []).shown := by
  rw [shownBy, outcome_run hasks hload, outcome_askCache hbuild hanswer]
  rfl

/-- An empty device name is reported, before anything else is looked at. -/
theorem shownBy_value_unnamed
    (hasks : Asks kit environment arguments settings (.value name "") directory)
    (hload : outcome (Config.load files directory) tree = (.ok config, tree)) :
    shownBy (run kit files environment clock arguments) tree = .ok (1, .nothing) := by
  have hstart : ({} : Memory).store.Sound := Store.sound_empty
  obtain ⟨c, built, filled, hbuild, -, -, hfill, -⟩ :=
    Config.exists_filled (hostOf tree config) hstart rfl (Config.valid_of_load hload)
  have hanswer : (Query.value name "").answer (hostOf tree config) settings.json c built =
      .error .deviceNameRequired filled := value_unnamed hfill name
  rw [shownBy, outcome_run hasks hload, outcome_askCache_failed hbuild hanswer]
  rfl

/-- Asking for the tags of an empty device name crashes, since the command expects no failure. -/
theorem outcome_tags_unnamed (clock : String)
    (hasks : Asks kit environment arguments settings (.tags "") directory)
    (hload : outcome (Config.load files directory) tree = (.ok config, tree)) :
    ∃ memory, outcome (run kit files environment clock arguments) tree =
      outcome (crashed files environment clock .deviceNameRequired
        (recordNotices (loggingOf environment settings) memory)) tree := by
  have hstart : ({} : Memory).store.Sound := Store.sound_empty
  obtain ⟨c, built, filled, hbuild, -, -, hfill, -⟩ :=
    Config.exists_filled (hostOf tree config) hstart rfl (Config.valid_of_load hload)
  have hanswer : (Query.tags "").answer (hostOf tree config) settings.json c built =
      .error .deviceNameRequired filled := tags_unnamed hfill settings.json
  refine ⟨filled, ?_⟩
  rw [outcome_run hasks hload, outcome_askCache_failed hbuild hanswer]
  rfl

theorem shownBy_tags_unnamed (hasks : Asks kit environment arguments settings (.tags "") directory)
    (hload : outcome (Config.load files directory) tree = (.ok config, tree)) :
    shownBy (run kit files environment clock arguments) tree =
      environment.errorLog.map fun _ => (1, .nothing) := by
  obtain ⟨memory, hcrash⟩ := outcome_tags_unnamed clock hasks hload
  rw [shownBy, hcrash]
  exact shownBy_crashed _ _ _

end Runs

/-- The listing commands agree: the list is what is printed for the listed devices, one after the
other; the tags are printed for them and for no other name; and the value of a tag is the first one
under its name among the pairs that are printed for the device. No device has an empty name, and to
ask for the value of a tag of such a device is an error. -/
theorem loaded_listings_agree
    (hload : outcome (Config.load files directory) tree = (.ok config, tree))
    (hdeclares : config.devices ≠ []) (kit : Toolkit) (environment : Environment)
    (clock : String) :
    (∀ arguments settings, Asks kit environment arguments settings .list directory →
      settings.json = false →
      shownBy (run kit files environment clock arguments) tree =
        .ok (0, .text (String.join ((listedNames config).map (printedTags kit config))))) ∧
    (∀ arguments settings device, Asks kit environment arguments settings (.tags device) directory →
      settings.json = false →
      (device ≠ "" → shownBy (run kit files environment clock arguments) tree =
        .ok (if device ∈ listedNames config then (0, .text (printedTags kit config device))
          else (2, .nothing))) ∧
      (device = "" → ∀ shown, shownBy (run kit files environment clock arguments) tree = .ok shown →
        shown.1 ≠ 0)) ∧
    ∀ arguments settings name device,
      Asks kit environment arguments settings (.value name device) directory → name ≠ "" →
      shownBy (run kit files environment clock arguments) tree =
        .ok (if device = "" then (1, .nothing)
          else if device ∈ listedNames config then
            shownText kit ((declaredPairs config.devices device).lookup name)
          else (2, .nothing)) := by
  have hstart : ({} : Memory).store.Sound := Store.sound_empty
  obtain ⟨c, built, filled, hbuild, -, -, hfill, hmirrors⟩ :=
    Config.exists_filled (hostOf tree config) hstart rfl (Config.valid_of_load hload)
  refine ⟨?_, ?_, ?_⟩
  · intro arguments settings hasks hjson
    have hlist := list_apply hfill hmirrors hdeclares
    rw [← hjson] at hlist
    rw [shownBy_answered hasks hload hbuild hlist]
    have hlines : (listedNames config).map (fun device =>
        deviceLine device (declaredPairs config.devices device)) ≠ [] :=
      fun hnone => listedNames_ne_nil hdeclares (List.map_eq_nil_iff.mp hnone)
    change Except.ok (0, Output.text (kit.shown _ ++ "\n")) = _
    rw [kit.shown_lines hlines, List.map_map]
    rfl
  · intro arguments settings device hasks hjson
    constructor
    · intro hdevice
      have htags := tags_apply hfill hmirrors settings.json hdevice
      rw [shownBy_answered hasks hload hbuild htags, hjson]
      split <;> rfl
    · rintro rfl shown hshown
      rw [shownBy_tags_unnamed hasks hload] at hshown
      cases hlog : environment.errorLog with
      | error failure =>
        rw [hlog] at hshown
        cases hshown
      | ok path =>
        rw [hlog] at hshown
        cases hshown
        exact Nat.one_ne_zero
  · intro arguments settings name device hasks hname
    by_cases hdevice : device = ""
    · subst hdevice
      rw [shownBy_value_unnamed hasks hload]
      rfl
    · have hvalue := value_apply hfill hmirrors name hdevice
      rw [if_neg fun h => hname h.1] at hvalue
      rw [shownBy_answered hasks hload hbuild hvalue, shown_valueReply, if_neg hdevice]
      by_cases hlisted : device ∈ listedNames config
      · rw [if_pos hlisted]
      · have hnone : declaredPairs config.devices device = [] :=
          declaredPairs_of_undeclared _ _ (hlisted ∘ List.mem_eraseDups.mpr)
        rw [if_neg hlisted, hnone]
        rfl

theorem asks_list : Asks .standard (environmentAt "/") ["list"] ⟨false, false, none⟩ .list
    Config.rootDirectory where
  command := by decide +kernel
  directory := asks_check.directory

theorem asks_tags : Asks .standard (environmentAt "/") ["tags", "sdb"] ⟨false, false, none⟩
    (.tags "sdb") Config.rootDirectory where
  command := by decide +kernel
  directory := asks_check.directory

theorem asks_value (device : String) (hdevice : device = "sda" ∨ device = "") :
    Asks .standard (environmentAt "/") ["value", "L", device] ⟨false, false, none⟩
      (.value "L" device) Config.rootDirectory where
  command := by
    rcases hdevice with rfl | rfl <;> decide +kernel
  directory := asks_check.directory

theorem twins_listed :
    shownBy (run .standard files (environmentAt "/") "" ["list"])
      (Config.treeHolding Config.twinsText) = .ok (0, .text "sda: L=\"x\"\nsdb: L=\"x\"\n") ∧
    shownBy (run .standard files (environmentAt "/") "" ["tags", "sdb"])
      (Config.treeHolding Config.twinsText) = .ok (0, .text "sdb: L=\"x\"\n") ∧
    shownBy (run .standard files (environmentAt "/") "" ["value", "L", "sda"])
      (Config.treeHolding Config.twinsText) = .ok (0, .text "x\n") := by
  have hdeclares : Config.twins.devices ≠ [] := List.cons_ne_nil _ _
  obtain ⟨hlist, htags, hvalue⟩ :=
    loaded_listings_agree Config.load_twins hdeclares .standard (environmentAt "/") ""
  have hnames : listedNames Config.twins = ["sda", "sdb"] := by decide +kernel
  have hsda : printedTags .standard Config.twins "sda" = "sda: L=\"x\"\n" := by
    rw [printedTags, Toolkit.shown_plain _ _ (by decide +kernel)]
    decide +kernel
  have hsdb : printedTags .standard Config.twins "sdb" = "sdb: L=\"x\"\n" := by
    rw [printedTags, Toolkit.shown_plain _ _ (by decide +kernel)]
    decide +kernel
  have hpair : (declaredPairs Config.twins.devices "sda").lookup "L" = some "x" := by
    decide +kernel
  refine ⟨(hlist _ _ asks_list rfl).trans ?_, ((htags _ _ _ asks_tags rfl).1 (by decide)).trans ?_,
    (hvalue _ _ _ _ (asks_value "sda" (.inl rfl)) (by decide)).trans ?_⟩
  · rw [hnames, List.map_cons, List.map_singleton, hsda, hsdb]
    rfl
  · rw [hnames, hsdb]
    rfl
  · rw [hnames, hpair, shownText, Toolkit.shown_plain _ _ (by decide)]
    rfl

/-- No device is without a name, but asking for the value of a tag of such a device does not end as
if nothing were found. -/
theorem twins_value_unnamed :
    "" ∉ listedNames Config.twins ∧
    shownBy (run .standard files (environmentAt "/") "" ["value", "L", ""])
      (Config.treeHolding Config.twinsText) = .ok (1, .nothing) :=
  ⟨by decide +kernel, shownBy_value_unnamed (asks_value "" (.inr rfl)) Config.load_twins⟩

end Cli

end DeviceTags
