import DeviceTags.Config.Document
import DeviceTags.Proofs.Inventory.Declared
import DeviceTags.Proofs.Toml.Keys
import Mathlib.Data.List.Forall2

/-!
# What an accepted document declares

Reading a document checks its parts one after the other. Each part is read if it is a valid one and
stands under its key, or is the default where nothing stands there, and so is the whole: the
configuration that is read from a document is the valid one that stands in it. Its version is known,
its priorities are numbers and its devices can be brought in. Where the tables of the document have
each key once, so have the tables of the configuration.
-/

namespace DeviceTags

theorem Whole.ofDatum?_eq_some_iff {given : Datum} {whole : Whole} :
    ofDatum? given = some whole ↔ given = whole.toDatum := by
  constructor
  · intro hgiven
    unfold ofDatum? at hgiven
    split at hgiven <;> cases hgiven <;> rfl
  · rintro rfl
    exact ofDatum?_toDatum whole

theorem Whole.toDatum_inj {first second : Whole} :
    first.toDatum = second.toDatum ↔ first = second := by
  rw [← ofDatum?_eq_some_iff, ofDatum?_toDatum, Option.some.injEq]

namespace Config

/-- A configuration that this version can read. -/
structure Valid (config : Config) : Prop where
  version : ∃ version ≤ currentVersion, config.version = .integer version
  priorities : ∀ entry ∈ config.priorities, ∃ priority, entry.2 = .integer priority
  devices : ∀ spec ∈ config.devices, spec.Valid

/-- A table of priorities as a document writes it. -/
def tableEntries (table : Priority.Table) : Entries :=
  table.map fun entry => (entry.1, entry.2.toDatum)

/-- The declaration stands in a table of a document: its name and its priority are those of the
table, and so are its tags, in their order. -/
structure SpecIn (entries : Entries) (spec : DeviceSpec) : Prop where
  name : entries.lookup "name" = some (.string spec.name)
  priority : entries.lookup "priority" = spec.priority.map Whole.toDatum
  tags : (entries.lookup "tags").getD (.table []) = .table spec.tags

/-- What the configuration says of the whole cache stands in a table of a document. -/
structure CacheIn (cache : Entries) (config : Config) : Prop where
  version : (cache.lookup "version").getD (.integer currentVersion) = config.version.toDatum
  probeOnMiss : config.probeOnMiss = ((cache.lookup "probe_on_miss").getD (.boolean true)).isTrue
  verifyPaths : config.verifyPaths = ((cache.lookup "verify_paths").getD (.boolean false)).isTrue

/-- The configuration of a directory stands in a document: all its values are those of the document,
in their order, or the defaults where the document has none. -/
structure ConfigIn (path : Path) (document : Entries) (config : Config) : Prop where
  path : config.path = path
  cache : ∃ cache, (document.lookup "cache").getD (.table []) = .table cache ∧ CacheIn cache config
  priorities : (document.lookup "priority").getD (.table (tableEntries defaultPriorities)) =
    .table (tableEntries config.priorities)
  devices : ∃ tables, (document.lookup "device").getD (.array []) = .array (tables.map .table) ∧
    List.Forall₂ SpecIn tables config.devices

variable {path : Path} {document entries cache : Entries} {config : Config} {spec : DeviceSpec}

/-! ## The parts of a document -/

theorem truthAt_eq (entries : Entries) (key : String) (otherwise : Bool) :
    truthAt entries key otherwise = ((entries.lookup key).getD (.boolean otherwise)).isTrue := by
  unfold truthAt
  cases entries.lookup key <;> rfl

theorem tableAt_eq_ok_iff {key : String} {otherwise : Failure} {table : Entries} :
    tableAt entries key otherwise = .ok table ↔
      (entries.lookup key).getD (.table []) = .table table := by
  unfold tableAt
  split
  · next hnone => simp [hnone]
  · next found hfound => simp [hfound]
  · next given hother hfound =>
    rw [hfound, Option.getD_some]
    exact ⟨nofun, fun heq => (hother table heq).elim⟩

theorem readVersion_eq_ok_iff {version : Whole} :
    readVersion cache = .ok version ↔ (∃ number ≤ currentVersion, version = .integer number) ∧
      (cache.lookup "version").getD (.integer currentVersion) = version.toDatum := by
  unfold readVersion
  split
  · next hnone =>
    rw [hnone, Option.getD_none]
    constructor
    · rintro ⟨⟩
      exact ⟨⟨_, Int.le_refl _, rfl⟩, rfl⟩
    · rintro ⟨⟨number, -, rfl⟩, ⟨⟩⟩
      rfl
  · next number hfound =>
    rw [hfound, Option.getD_some]
    constructor
    · intro hread
      split at hread
      · cases hread
      · next hknown =>
        cases hread
        exact ⟨⟨number, Int.not_lt.mp hknown, rfl⟩, rfl⟩
    · rintro ⟨⟨known, hknown, rfl⟩, ⟨⟩⟩
      exact if_neg (Int.not_lt.mpr hknown)
  · next given hother hfound =>
    rw [hfound, Option.getD_some]
    constructor
    · exact nofun
    · rintro ⟨⟨known, -, rfl⟩, heq⟩
      exact (hother known heq).elim

theorem readPriorityEntries_eq_ok_iff {table : Priority.Table} :
    readPriorityEntries entries = .ok table ↔
      (∀ entry ∈ table, ∃ priority, entry.2 = .integer priority) ∧
        entries = tableEntries table := by
  fun_induction readPriorityEntries entries generalizing table
  case case1 =>
    constructor
    · rintro ⟨⟩
      exact ⟨by simp, rfl⟩
    · rintro ⟨-, hnil⟩
      rw [List.map_eq_nil_iff.mp hnil.symm]
  case case2 key value rest ih =>
    constructor
    · intro hread
      cases hrest : readPriorityEntries rest with
      | error failure =>
        rw [hrest] at hread
        cases hread
      | ok more =>
        rw [hrest] at hread
        cases hread
        obtain ⟨hnumbers, hentries⟩ := ih.mp hrest
        exact ⟨List.forall_mem_cons.mpr ⟨⟨value, rfl⟩, hnumbers⟩, congrArg _ hentries⟩
    · rintro ⟨hnumbers, heq⟩
      cases table with
      | nil => cases heq
      | cons entry more =>
        obtain ⟨⟨priority, hpriority⟩, hmore⟩ := List.forall_mem_cons.mp hnumbers
        obtain ⟨known, whole⟩ := entry
        obtain rfl : whole = .integer priority := hpriority
        obtain ⟨⟨⟩, hrest⟩ := List.cons.inj heq
        rw [ih.mpr ⟨hmore, hrest⟩]
        rfl
  case case3 key given rest hother =>
    refine ⟨nofun, fun ⟨hnumbers, heq⟩ => ?_⟩
    cases table with
    | nil => cases heq
    | cons entry more =>
      obtain ⟨⟨priority, hpriority⟩, -⟩ := List.forall_mem_cons.mp hnumbers
      obtain ⟨known, whole⟩ := entry
      obtain rfl : whole = .integer priority := hpriority
      exact (hother priority (congrArg Prod.snd (List.cons.inj heq).1)).elim

theorem tableEntries_injective : Function.Injective tableEntries := by
  refine List.map_injective_iff.mpr fun first second heq => ?_
  obtain ⟨hkey, hvalue⟩ := Prod.mk.inj heq
  exact Prod.ext hkey (Whole.toDatum_inj.mp hvalue)

theorem readPriorities_eq_ok_iff {table : Priority.Table} :
    readPriorities document = .ok table ↔
      (∀ entry ∈ table, ∃ priority, entry.2 = .integer priority) ∧
        (document.lookup "priority").getD (.table (tableEntries defaultPriorities)) =
          .table (tableEntries table) := by
  unfold readPriorities
  split
  · next hnone =>
    rw [hnone, Option.getD_none, Datum.table.injEq, tableEntries_injective.eq_iff]
    constructor
    · rintro ⟨⟩
      refine ⟨?_, rfl⟩
      simp [defaultPriorities]
    · rintro ⟨-, rfl⟩
      rfl
  · next found hfound =>
    rw [hfound, Option.getD_some, Datum.table.injEq]
    exact readPriorityEntries_eq_ok_iff
  · next given hother hfound =>
    rw [hfound, Option.getD_some]
    exact ⟨nofun, fun ⟨_, heq⟩ => (hother _ heq).elim⟩

theorem tablesIn_eq_some_iff {items : List Datum} {tables : List Entries} :
    tablesIn items = some tables ↔ items = tables.map .table := by
  fun_induction tablesIn items generalizing tables
  case case1 =>
    constructor
    · rintro ⟨⟩
      rfl
    · intro hnil
      rw [List.map_eq_nil_iff.mp hnil.symm]
  case case2 entries rest ih =>
    rw [Option.map_eq_some_iff]
    constructor
    · rintro ⟨more, hmore, rfl⟩
      rw [ih.mp hmore]
      rfl
    · intro heq
      cases tables with
      | nil => cases heq
      | cons first more =>
        obtain ⟨⟨⟩, hrest⟩ := List.cons.inj heq
        exact ⟨more, ih.mpr hrest, rfl⟩
  case case3 given rest hother =>
    refine ⟨nofun, fun heq => ?_⟩
    cases tables with
    | nil => cases heq
    | cons first more => exact (hother first (List.cons.inj heq).1).elim

theorem readDeviceTables_eq_ok_iff {tables : List Entries} :
    readDeviceTables document = .ok tables ↔
      (document.lookup "device").getD (.array []) = .array (tables.map .table) := by
  unfold readDeviceTables
  split
  · next hnone => simp [hnone, eq_comm]
  · next items hfound =>
    rw [hfound, Option.getD_some, Datum.array.injEq, ← tablesIn_eq_some_iff]
    split
    · next htables => simp [htables]
    · next htables => simp [htables]
  · next given hother hfound =>
    rw [hfound, Option.getD_some]
    exact ⟨nofun, fun heq => (hother _ heq).elim⟩

theorem readDeviceName_eq_ok_iff {name : String} :
    readDeviceName entries = .ok name ↔ name ≠ "" ∧ entries.lookup "name" = some (.string name) := by
  unfold readDeviceName
  split
  · next given hfound =>
    rw [hfound, Option.some.injEq, Datum.string.injEq]
    constructor
    · intro hread
      split at hread
      · cases hread
      · next hgiven =>
        cases hread
        exact ⟨hgiven, rfl⟩
    · rintro ⟨hname, rfl⟩
      exact if_neg hname
  · next hother => exact ⟨nofun, fun ⟨_, hfound⟩ => (hother name hfound).elim⟩

theorem readDevicePriority_eq_ok_iff {device : String} {priority : Option Priority} :
    readDevicePriority device entries = .ok priority ↔
      entries.lookup "priority" = priority.map Whole.toDatum := by
  unfold readDevicePriority
  split
  · next hnone => cases priority <;> simp [hnone]
  · next given hfound =>
    rw [hfound]
    split
    · next known hknown =>
      rw [Whole.ofDatum?_eq_some_iff.mp hknown]
      cases priority <;> simp [Whole.toDatum_inj]
    · next hnone =>
      refine ⟨nofun, fun heq => ?_⟩
      obtain ⟨known, -, hgiven⟩ := Option.map_eq_some_iff.mp heq.symm
      rw [Whole.ofDatum?_eq_some_iff.mpr hgiven.symm] at hnone
      cases hnone

theorem checkTags_eq_ok_iff {device : String} {tags : Entries} :
    checkTags device tags = .ok () ↔ ∀ tag ∈ tags, tag.1 ≠ "" ∧ ∃ text, tag.2 = .string text := by
  fun_induction checkTags device tags
  case case1 => simp
  case case2 value rest => simp
  case case3 key rest hkey text ih =>
    rw [ih, List.forall_mem_cons]
    exact ⟨fun hrest => ⟨⟨hkey, text, rfl⟩, hrest⟩, fun hall => hall.2⟩
  case case4 key value rest hkey hother =>
    refine ⟨nofun, fun hall => ?_⟩
    obtain ⟨-, text, htext⟩ := hall (key, value) List.mem_cons_self
    exact (hother text htext).elim

/-- A declaration is read from a table if it can be brought in and stands in the table. -/
theorem readDevice_eq_ok_iff :
    readDevice entries = .ok spec ↔ spec.Valid ∧ SpecIn entries spec := by
  simp only [readDevice, Except.bind_eq_ok_iff, readDeviceName_eq_ok_iff,
    readDevicePriority_eq_ok_iff, tableAt_eq_ok_iff]
  constructor
  · rintro ⟨name, ⟨hnamed, hname⟩, priority, hpriority, tags, htags, _, hcheck, ⟨⟩⟩
    have hvalid := checkTags_eq_ok_iff.mp hcheck
    exact ⟨⟨hnamed, fun tag htag => (hvalid tag htag).1, fun tag htag => (hvalid tag htag).2⟩,
      hname, hpriority, htags⟩
  · rintro ⟨hvalid, hname, hpriority, htags⟩
    have hcheck : checkTags spec.name spec.tags = .ok () := checkTags_eq_ok_iff.mpr
      fun tag htag => ⟨hvalid.tagsNamed tag htag, hvalid.texts tag htag⟩
    exact ⟨_, ⟨hvalid.named, hname⟩, _, hpriority, _, htags, _, hcheck, rfl⟩

theorem readDevices_eq_ok_iff {tables : List Entries} {specs : List DeviceSpec} :
    readDevices tables = .ok specs ↔
      (∀ spec ∈ specs, spec.Valid) ∧ List.Forall₂ SpecIn tables specs := by
  induction tables generalizing specs with
  | nil =>
    rw [List.forall₂_nil_left_iff]
    constructor
    · rintro ⟨⟩
      exact ⟨by simp, rfl⟩
    · rintro ⟨-, rfl⟩
      rfl
  | cons entries rest ih =>
    simp only [readDevices, Except.bind_eq_ok_iff, readDevice_eq_ok_iff, ih]
    constructor
    · rintro ⟨spec, ⟨hvalid, hspec⟩, more, ⟨hmore, hrest⟩, ⟨⟩⟩
      exact ⟨List.forall_mem_cons.mpr ⟨hvalid, hmore⟩, .cons hspec hrest⟩
    · rintro ⟨hvalid, hspecs⟩
      cases hspecs with
      | cons hspec hrest =>
        obtain ⟨hfirst, hmore⟩ := List.forall_mem_cons.mp hvalid
        exact ⟨_, ⟨hfirst, hspec⟩, _, ⟨hmore, hrest⟩, rfl⟩

/-- A configuration is read from a document if it is valid and stands in the document. -/
theorem ofDocument_eq_ok_iff :
    ofDocument path document = .ok config ↔ config.Valid ∧ ConfigIn path document config := by
  simp only [ofDocument, Except.bind_eq_ok_iff, tableAt_eq_ok_iff, readVersion_eq_ok_iff,
    readPriorities_eq_ok_iff, readDeviceTables_eq_ok_iff, readDevices_eq_ok_iff, truthAt_eq]
  constructor
  · rintro ⟨cache, hcache, version, ⟨hknown, hversion⟩, priorities, ⟨hnumbers, hpriorities⟩,
      tables, htables, devices, ⟨hvalid, hdevices⟩, ⟨⟩⟩
    exact ⟨⟨hknown, hnumbers, hvalid⟩, rfl, ⟨cache, hcache, hversion, rfl, rfl⟩, hpriorities,
      tables, htables, hdevices⟩
  · rintro ⟨⟨hknown, hnumbers, hvalid⟩, rfl, ⟨cache, hcache, hversion, hmiss, hverify⟩,
      hpriorities, tables, htables, hdevices⟩
    refine ⟨cache, hcache, _, ⟨hknown, hversion⟩, _, ⟨hnumbers, hpriorities⟩, tables, htables, _,
      ⟨hvalid, hdevices⟩, ?_⟩
    rw [← hmiss, ← hverify]
    rfl

/-- Every configuration that is read from a document is valid. -/
theorem ofDocument_valid (hread : ofDocument path document = .ok config) : config.Valid :=
  (ofDocument_eq_ok_iff.mp hread).1

/-! ## Tables with each key once -/

/-- A valid configuration whose tables have each key once. -/
structure WellFormed (config : Config) : Prop extends config.Valid where
  prefixesOnce : (config.priorities.map Prod.fst).Nodup
  tagsOnce : ∀ spec ∈ config.devices, (spec.tags.map Prod.fst).Nodup

/-- What stands under a key, or else the default. -/
theorem keysOnce_getD {key : String} {otherwise : Datum} (hkeys : (Datum.table entries).KeysOnce)
    (hotherwise : otherwise.KeysOnce) : ((entries.lookup key).getD otherwise).KeysOnce := by
  cases hfound : entries.lookup key with
  | none => exact hotherwise
  | some found => exact hkeys.lookup hfound

theorem keysOnce_tableEntries {table : Priority.Table} :
    (Datum.table (tableEntries table)).KeysOnce ↔ (table.map Prod.fst).Nodup := by
  have hkeys : (tableEntries table).map Prod.fst = table.map Prod.fst := by
    simp [tableEntries, Function.comp_def]
  constructor
  · exact fun honce => hkeys ▸ honce.once
  · refine fun honce => .table (hkeys ▸ honce) fun entry hentry => .single ?_
    obtain ⟨known, -, rfl⟩ := List.mem_map.mp hentry
    cases known.2 <;> trivial

theorem exists_table_of_mem {tables : List Entries} {specs : List DeviceSpec}
    (hstand : List.Forall₂ SpecIn tables specs) (hspec : spec ∈ specs) :
    ∃ entries ∈ tables, SpecIn entries spec := by
  induction hstand with
  | nil => cases hspec
  | cons hfirst hrest ih =>
    rcases List.mem_cons.mp hspec with rfl | hmem
    · exact ⟨_, List.mem_cons_self, hfirst⟩
    · obtain ⟨entries, hentries, hstands⟩ := ih hmem
      exact ⟨entries, List.mem_cons_of_mem _ hentries, hstands⟩

/-- A configuration from a document whose tables have each key once. -/
theorem ofDocument_wellFormed (hkeys : (Datum.table document).KeysOnce)
    (hread : ofDocument path document = .ok config) : config.WellFormed := by
  obtain ⟨hvalid, hstands⟩ := ofDocument_eq_ok_iff.mp hread
  refine ⟨hvalid, ?_, fun spec hspec => ?_⟩
  · rw [← keysOnce_tableEntries, ← hstands.priorities]
    exact keysOnce_getD hkeys (keysOnce_tableEntries.mpr (by decide))
  · obtain ⟨tables, htables, hdevices⟩ := hstands.devices
    obtain ⟨entries, hentries, hspecs⟩ := exists_table_of_mem hdevices hspec
    have hlist : (Datum.array (tables.map .table)).KeysOnce :=
      htables ▸ keysOnce_getD hkeys (.array (by simp))
    have htable : (Datum.table entries).KeysOnce := hlist.items _ (List.mem_map_of_mem hentries)
    have hempty : (Datum.table []).KeysOnce := .table List.nodup_nil (by simp)
    have htags : (Datum.table spec.tags).KeysOnce := hspecs.tags ▸ keysOnce_getD htable hempty
    exact htags.once

end Config

end DeviceTags
