import DeviceTags.Proofs.Config.Loading
import DeviceTags.Proofs.FileTree
import DeviceTags.Proofs.Toml.Documents

/-!
# Saving and loading again

A document is read by its keys. So whatever writer gives documents their text, a configuration that is
saved is the one that is loaded afterwards, provided that its document is read back with its entries,
in whatever order these stand at the top. The writer of TOML is such a writer: it writes the document
of a configuration as two plain tables and a list of devices, if the numbers are short enough to be
written, and moves the list at most.
-/

namespace DeviceTags

open FileTree

namespace Config

variable {config : Config} {spec : DeviceSpec}

/-- All numbers of the configuration are short enough to be written. -/
structure Writable (config : Config) : Prop where
  version : config.version.isWritable
  priorities : ∀ entry ∈ config.priorities, entry.2.isWritable
  devices : ∀ spec ∈ config.devices, ∀ priority, spec.priority = some priority → priority.isWritable

/-! ## The document of a configuration -/

def cacheEntries (config : Config) : Entries :=
  [("version", config.version.toDatum), ("probe_on_miss", .boolean config.probeOnMiss),
    ("verify_paths", .boolean config.verifyPaths)]

def priorityEntries (config : Config) : Entries :=
  config.priorities.map fun entry => (entry.1, entry.2.toDatum)

/-- What is declared about a device besides its tags. -/
def scalarEntries (spec : DeviceSpec) : Entries :=
  ("name", .string spec.name) ::
    match spec.priority with
    | none => []
    | some priority => [("priority", priority.toDatum)]

def layout (config : Config) : Toml.Layout where
  tables := [("cache", config.cacheEntries), ("priority", config.priorityEntries)]
  list := "device"
  elements := config.devices.map fun spec => ⟨scalarEntries spec, "tags", spec.tags⟩

theorem entries_layout (config : Config) : config.layout.entries = config.toDocument := by
  have hitems : config.layout.listItems =
      config.devices.map fun spec => .table (deviceEntries spec) := by
    rw [Toml.Layout.listItems, layout, List.map_map]
    rfl
  rw [Toml.Layout.entries, toDocument, hitems]
  simp only [layout, Toml.sections, List.map_eq_nil_iff, List.isEmpty_iff]
  rfl

theorem plain_toDatum {whole : Whole} (hwritable : whole.isWritable) : Toml.Plain whole.toDatum := by
  cases whole with
  | integer value => exact .integer hwritable
  | boolean value => exact .boolean value

theorem cacheEntries_plain (hversion : config.version.isWritable) :
    Toml.PlainTable config.cacheEntries where
  once := by
    change ["version", "probe_on_miss", "verify_paths"].Nodup
    decide
  plain := by
    simp only [cacheEntries, List.forall_mem_cons]
    exact ⟨plain_toDatum hversion, .boolean _, .boolean _, by simp⟩

theorem priorityEntries_plain (hformed : config.WellFormed) (hwritable : config.Writable) :
    Toml.PlainTable config.priorityEntries where
  once := by
    rw [priorityEntries, List.map_map]
    exact hformed.prefixesOnce
  plain := by
    intro entry hentry
    obtain ⟨given, hgiven, rfl⟩ := List.mem_map.mp hentry
    exact plain_toDatum (hwritable.priorities given hgiven)

theorem scalarEntries_plain
    (hwritable : ∀ priority, spec.priority = some priority → priority.isWritable) :
    Toml.PlainTable (scalarEntries spec) ∧ "tags" ∉ (scalarEntries spec).map Prod.fst := by
  rw [scalarEntries]
  split
  · refine ⟨⟨List.nodup_singleton _, ?_⟩, by simp⟩
    simp only [List.forall_mem_singleton]
    exact .string _
  · next priority hpriority =>
    refine ⟨⟨by simp, ?_⟩, by simp⟩
    simp only [List.forall_mem_cons]
    exact ⟨.string _, plain_toDatum (hwritable priority hpriority), by simp⟩

/-- A device whose numbers can be written. -/
theorem element_plain (hvalid : spec.Valid) (honce : (spec.tags.map Prod.fst).Nodup)
    (hwritable : ∀ priority, spec.priority = some priority → priority.isWritable) :
    (⟨scalarEntries spec, "tags", spec.tags⟩ : Toml.Element).IsPlain where
  scalars := (scalarEntries_plain hwritable).1
  below := by
    refine ⟨honce, fun tag htag => ?_⟩
    obtain ⟨text, htext⟩ := hvalid.texts tag htag
    rw [htext]
    exact .string text
  new := (scalarEntries_plain hwritable).2

theorem layout_plain (hformed : config.WellFormed) (hwritable : config.Writable) :
    config.layout.IsPlain where
  some := List.cons_ne_nil _ _
  tables := by
    simp only [layout, List.forall_mem_cons]
    exact ⟨cacheEntries_plain hwritable.version, priorityEntries_plain hformed hwritable, by simp⟩
  elements := by
    intro element helement
    obtain ⟨spec, hspec, rfl⟩ := List.mem_map.mp helement
    exact element_plain (hformed.devices spec hspec) (hformed.tagsOnce spec hspec)
      (hwritable.devices spec hspec)
  once := by
    change (["cache", "priority"] ++ ["device"]).Nodup
    decide

/-! ## Reading the document -/

theorem specIn_deviceEntries (spec : DeviceSpec) : SpecIn (deviceEntries spec) spec := by
  obtain ⟨name, priority, tags⟩ := spec
  cases priority <;> exact ⟨rfl, rfl, rfl⟩

theorem devices_toDocument (config : Config) :
    (config.toDocument.lookup "device").getD (.array []) =
      .array ((config.devices.map deviceEntries).map .table) := by
  rw [toDocument, List.map_map]
  cases config.devices <;> rfl

/-- A document reads as the configuration that it was made for. -/
theorem ofDocument_toDocument (hvalid : config.Valid) :
    ofDocument config.path config.toDocument = .ok config := by
  refine ofDocument_eq_ok_iff.mpr ⟨hvalid, ?_⟩
  constructor
  case path => rfl
  case cache => exact ⟨config.cacheEntries, rfl, rfl, rfl, rfl⟩
  case priorities => rfl
  case devices =>
    refine ⟨config.devices.map deviceEntries, devices_toDocument config, ?_⟩
    rw [List.forall₂_map_left_iff, List.forall₂_same]
    exact fun spec _ => specIn_deviceEntries spec

/-- Only what is found under the keys matters. -/
theorem ofDocument_congr {path : Path} {document other : Entries}
    (hsame : ∀ key, document.lookup key = other.lookup key) :
    ofDocument path document = ofDocument path other := by
  simp only [ofDocument, tableAt, readPriorities, readDeviceTables, hsame]

/-- The writer gives a document a text that is read back as the same entries. -/
def ReadsBack (write : Writer) (document : Entries) : Prop :=
  ∃ text read, write document = ⟨text, none⟩ ∧ Toml.read text = .ok read ∧ read.Perm document

/-- What is read back for a configuration gives the configuration. -/
theorem ofDocument_of_perm (hvalid : config.Valid) {read : Entries}
    (hperm : read.Perm config.toDocument) : ofDocument config.path read = .ok config := by
  have honce : (config.toDocument.map Prod.fst).Nodup := by
    rw [toDocument]
    split <;> simp
  rw [ofDocument_congr fun key => lookup_perm hperm honce key]
  exact ofDocument_toDocument hvalid

/-- The writer of TOML gives every configuration with short numbers a text that is read back. -/
theorem readsBack_toml (hformed : config.WellFormed) (hwritable : config.Writable) :
    ReadsBack .toml config.toDocument := by
  obtain ⟨text, read, hwrite, hread, hperm⟩ := (layout_plain hformed hwritable).exists_text
  rw [entries_layout] at hwrite hperm
  refine ⟨text, read, ?_, hread, hperm⟩
  simp only [Writer.toml, hwrite, Option.map_none]

/-! ## Files -/

section

variable {tree made : FileTree} {directory : Path}

theorem outcome_makeDirectories_of_ok (hmade : tree.makeDirectories directory = (.ok (), made)) :
    outcome (accessing (files.makeDirectories directory)) tree = (.ok (), made) := by
  change ((tree.makeDirectories directory).1.mapError Failure.file,
    (tree.makeDirectories directory).2) = _
  rw [hmade]
  rfl

theorem outcome_write_of_ok {path : Path} {content : ByteArray} {after : FileTree}
    (hwrite : tree.write path content = .ok after) :
    outcome (accessing (files.write path content)) tree = (.ok (), after) := by
  change ((FileTree.become (·.write path content) tree).1.mapError Failure.file,
    (FileTree.become (·.write path content) tree).2) = _
  rw [FileTree.become, hwrite]
  rfl

/-- Where the directory can be made and the file can be written, a configuration that is saved can be
loaded. -/
theorem exists_save {write : Writer} (hvalid : config.Valid)
    (hback : ReadsBack write config.toDocument)
    (hmade : tree.makeDirectories config.path = (.ok (), made))
    (hcan : made.CanWrite (fileIn config.path)) :
    ∃ after, outcome (save files (some write) config) tree = (.ok (), after) ∧
      outcome (load files config.path) after = (.ok config, after) := by
  obtain ⟨text, read, htext, hread, hperm⟩ := hback
  obtain ⟨after, hwrite, hcontains, hcontent⟩ := exists_write hcan text.toUTF8
  have hdecode : decode text.toUTF8 = .ok read := by
    rw [decode, fromUTF8?_toUTF8]
    dsimp only
    rw [hread]
    rfl
  refine ⟨after, ?_, ?_⟩
  · rw [save, outcome_bind_of_ok (outcome_makeDirectories_of_ok hmade), htext]
    exact outcome_bind_of_ok (outcome_write_of_ok hwrite)
  · rw [outcome_load, inFile, hcontains, hcontent]
    dsimp only
    rw [hdecode]
    exact congrArg (·, _) (ofDocument_of_perm hvalid hperm)

/-- What stops the writer is reported, and the file holds what was written by then. -/
theorem exists_save_of_stopped {write : Writer} {failure : Failure}
    (hstopped : (write config.toDocument).failure = some failure)
    (hmade : tree.makeDirectories config.path = (.ok (), made))
    (hcan : made.CanWrite (fileIn config.path)) :
    ∃ after, outcome (save files (some write) config) tree = (.error failure, after) ∧
      after.read (fileIn config.path) = .ok (write config.toDocument).text.toUTF8 := by
  obtain ⟨after, hwrite, -, hcontent⟩ :=
    exists_write hcan (write config.toDocument).text.toUTF8
  refine ⟨after, ?_, hcontent⟩
  rw [save, outcome_bind_of_ok (outcome_makeDirectories_of_ok hmade)]
  dsimp only
  rw [outcome_bind_of_ok (outcome_write_of_ok hwrite), hstopped]
  rfl

theorem fileIn_eq (directory : Path) :
    fileIn directory = ⟨directory.anchor, directory.names ++ [fileName]⟩ := by
  have hname : Path.ofString fileName = ⟨.here, [fileName]⟩ := by decide +kernel
  rw [fileIn, Path.child, hname]
  rfl

/-- A configuration that is loaded is well formed. -/
theorem wellFormed_of_load (hload : outcome (load files directory) tree = (.ok config, tree)) :
    config.WellFormed ∧ config.path = directory := by
  obtain ⟨content, document, -, -, hdecode, hdocument⟩ := exists_document_of_load hload
  obtain ⟨-, hpath, -⟩ := ofDocument_eq_ok_iff.mp hdocument
  refine ⟨?_, hpath⟩
  unfold decode at hdecode
  split at hdecode
  · cases hdecode
  · next text _ =>
    cases hread : Toml.read text with
    | error fault =>
      rw [hread] at hdecode
      cases hdecode
    | ok read =>
      rw [hread] at hdecode
      cases hdecode
      exact ofDocument_wellFormed (Toml.keysOnce_of_read hread) hdocument

/-- Where a configuration was loaded, it can be saved. -/
theorem exists_save_of_load {write : Writer}
    (hload : outcome (load files directory) tree = (.ok config, tree))
    (hback : ReadsBack write config.toDocument) :
    ∃ after, outcome (save files (some write) config) tree = (.ok (), after) ∧
      outcome (load files directory) after = (.ok config, after) := by
  obtain ⟨content, document, hcontains, hread, -, -⟩ := exists_document_of_load hload
  obtain ⟨hformed, rfl⟩ := wellFormed_of_load hload
  obtain ⟨place, hlocate⟩ := exists_locate_of_read hread
  rw [fileIn_eq] at hlocate
  exact exists_save hformed.toValid hback (makeDirectories_above hlocate) (canWrite_of_read hread)

theorem standard_wellFormed (directory : Path) : (standard directory).WellFormed where
  version := ⟨currentVersion, Int.le_refl _, rfl⟩
  priorities := by simp [standard, defaultPriorities]
  devices := by simp [standard]
  prefixesOnce := by
    change (defaultPriorities.map Prod.fst).Nodup
    decide
  tagsOnce := by simp [standard]

theorem standard_writable (directory : Path) : (standard directory).Writable where
  version := rfl
  priorities := by
    simp only [standard, defaultPriorities, List.forall_mem_cons]
    exact ⟨rfl, rfl, by simp⟩
  devices := by simp [standard]

/-- Where there is no configuration, the standard one is saved. -/
theorem outcome_loadOrCreate_of_missing (hmissing : tree.contains (fileIn directory) = .ok false)
    {write : Writer} {after : FileTree}
    (hsave : outcome (save files (some write) (standard directory)) tree = (.ok (), after)) :
    outcome (loadOrCreate files (some write) directory) tree =
      (.ok (standard directory), after) := by
  rw [loadOrCreate, outcome_bind, outcome_contains, hmissing]
  change outcome (save files (some write) (standard directory) >>= _) tree = _
  rw [outcome_bind_of_ok hsave]
  rfl

end

/-! ## The empty tree -/

theorem locate_empty (aim : Aim) :
    FileTree.empty.locate aim (fileIn rootDirectory) = .ok (.vacant [] fileName) := by
  have hwalk : FileTree.empty.walk aim linkLimit [] [fileName] = .ok (.vacant [] fileName) := by
    have hentry : FileTree.empty.entryAt ([] ++ [fileName]) = none := rfl
    rw [walk, if_neg (by decide), if_neg (by decide), if_neg (by simp), if_neg (by decide +kernel),
      hentry]
    rfl
  have hpath : fileIn rootDirectory = ⟨.root, [fileName]⟩ := fileIn_eq rootDirectory
  rw [locate, hpath, if_neg (by decide +kernel), if_neg (by decide +kernel), if_neg (by decide)]
  dsimp only
  rw [hwalk]
  rfl

theorem makeDirectories_empty :
    FileTree.empty.makeDirectories rootDirectory = (.ok (), .empty) := by
  have hlocate := locate_empty .target
  rw [fileIn_eq] at hlocate
  exact makeDirectories_above hlocate

theorem canWrite_empty : FileTree.empty.CanWrite (fileIn rootDirectory) := by
  obtain ⟨mode, hwrite⟩ := write_spot (locate_empty .file) rfl .empty
  exact ⟨.empty, _, hwrite⟩

theorem contains_empty : FileTree.empty.contains (fileIn rootDirectory) = .ok false := by
  rw [FileTree.contains, locate_empty]

/-! ## What is saved is loaded -/

/-- What loading gives without the tree, which it leaves alone. -/
theorem outcome_load_of_fst (hload : (outcome (load files directory) tree).1 = .ok config) :
    outcome (load files directory) tree = (.ok config, tree) := by
  rw [outcome_load] at hload ⊢
  exact congrArg (·, tree) hload

/-- With whatever writer a configuration is saved, it is the one that is loaded if its document is read
back: one that is valid, one that was loaded, which is valid always, and the one that is made where
there is none. -/
theorem saved_is_loaded (write : Writer) :
    (∀ {config : Config} {tree made : FileTree}, config.Valid →
      ReadsBack write config.toDocument →
      tree.makeDirectories config.path = (.ok (), made) → made.CanWrite (fileIn config.path) →
      ∃ after, outcome (save files (some write) config) tree = (.ok (), after) ∧
        (outcome (load files config.path) after).1 = .ok config) ∧
    (∀ {config : Config} {tree : FileTree} {directory : Path},
      (outcome (load files directory) tree).1 = .ok config →
      config.WellFormed ∧ config.path = directory) ∧
    (∀ {config : Config} {tree : FileTree} {directory : Path},
      (outcome (load files directory) tree).1 = .ok config →
      ReadsBack write config.toDocument →
      ∃ after, outcome (save files (some write) config) tree = (.ok (), after) ∧
        (outcome (load files directory) after).1 = .ok config) ∧
    (∀ {tree made : FileTree} {directory : Path}, tree.contains (fileIn directory) = .ok false →
      ReadsBack write (standard directory).toDocument →
      tree.makeDirectories directory = (.ok (), made) → made.CanWrite (fileIn directory) →
      ∃ after, outcome (loadOrCreate files (some write) directory) tree =
          (.ok (standard directory), after) ∧
        (outcome (load files directory) after).1 = .ok (standard directory)) := by
  refine ⟨?_, ?_, ?_, ?_⟩
  · intro config tree made hvalid hback hmade hcan
    obtain ⟨after, hsave, hload⟩ := exists_save hvalid hback hmade hcan
    exact ⟨after, hsave, congrArg Prod.fst hload⟩
  · intro config tree directory hload
    exact wellFormed_of_load (outcome_load_of_fst hload)
  · intro config tree directory hload hback
    obtain ⟨after, hsave, hagain⟩ := exists_save_of_load (outcome_load_of_fst hload) hback
    exact ⟨after, hsave, congrArg Prod.fst hagain⟩
  · intro tree made directory hmissing hback hmade hcan
    obtain ⟨after, hsave, hload⟩ :=
      exists_save (standard_wellFormed directory).toValid hback hmade hcan
    exact ⟨after, outcome_loadOrCreate_of_missing hmissing hsave, congrArg Prod.fst hload⟩

theorem twins_saved :
    (∃ after, outcome (save files (some .toml) twins) .empty = (.ok (), after) ∧
      (outcome (load files rootDirectory) after).1 = .ok twins) ∧
    twins.WellFormed ∧ twins.path = rootDirectory ∧
    (∃ after, outcome (save files (some .toml) twins) (treeHolding twinsText) = (.ok (), after) ∧
      (outcome (load files rootDirectory) after).1 = .ok twins) ∧
    (∃ after, outcome (loadOrCreate files (some .toml) rootDirectory) .empty =
        (.ok (standard rootDirectory), after) ∧
      (outcome (load files rootDirectory) after).1 = .ok (standard rootDirectory)) := by
  obtain ⟨hsaved, hformed, hagain, hcreated⟩ := saved_is_loaded .toml
  have hload : (outcome (load files rootDirectory) (treeHolding twinsText)).1 = .ok twins :=
    congrArg Prod.fst load_twins
  have hwritable : twins.Writable := by
    refine ⟨rfl, (standard_writable rootDirectory).priorities, ?_⟩
    simp only [twins, List.forall_mem_cons]
    refine ⟨nofun, nofun, ?_, by simp⟩
    rintro priority ⟨⟩
    rfl
  have hback : ReadsBack .toml twins.toDocument := readsBack_toml (hformed hload).1 hwritable
  have hstandard : ReadsBack .toml (standard rootDirectory).toDocument :=
    readsBack_toml (standard_wellFormed rootDirectory) (standard_writable rootDirectory)
  exact ⟨hsaved (hformed hload).1.toValid hback makeDirectories_empty canWrite_empty,
    (hformed hload).1, (hformed hload).2, hagain hload hback,
    hcreated contains_empty hstandard makeDirectories_empty canWrite_empty⟩

end Config

end DeviceTags
