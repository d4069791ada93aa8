import DeviceTags.Proofs.Config.Loading

/-!
# The schema of configurations

Which documents are accepted, said of the document alone: what may stand under each of its keys. A
document that follows the schema says one configuration, and loading gives that one. On every other
document loading fails, with a value that is wrong unless the value is nested too deep to be shown.
What may stand as the priority of a device is a parameter, because a truth value is let through there
and nowhere else.
-/

namespace DeviceTags

open FileTree

namespace Datum

/-- A whole number, and no truth value. -/
def IsInteger (given : Datum) : Prop := ∃ number, given = .integer number

/-- A whole number, or a truth value in its place. -/
def IsWhole (given : Datum) : Prop := ∃ whole : Whole, given = whole.toDatum

theorem isInteger_iff {given : Datum} :
    given.IsInteger ↔ given.IsWhole ∧ ∀ value, given ≠ .boolean value := by
  constructor
  · rintro ⟨number, rfl⟩
    exact ⟨⟨.integer number, rfl⟩, fun _ => nofun⟩
  · rintro ⟨⟨whole, rfl⟩, hnot⟩
    cases whole with
    | integer number => exact ⟨number, rfl⟩
    | boolean value => exact absurd rfl (hnot value)

/-! ## Values that are nested too deep -/

variable {entries : List (String × Datum)} {items : List Datum} {key : String} {given : Datum}

mutual

/-- A value that is too deep to be shown is at least as deep as there is room. -/
theorem room_le_depth {room : Nat} : {given : Datum} →
    given.hindrance? room = some .nestedTooDeep → room ≤ given.depth
  | given, hhindered => by
    cases room with
    | zero => exact Nat.zero_le _
    | succ room =>
      cases given with
      | array items => exact Nat.succ_le_succ (room_le_itemsDepth hhindered)
      | table entries => exact Nat.succ_le_succ (room_le_entriesDepth hhindered)
      | integer value =>
        rw [hindrance?] at hhindered
        split at hhindered <;> cases hhindered
      | _ => cases hhindered

theorem room_le_itemsDepth {room : Nat} : {items : List Datum} →
    hindranceInItems? room items = some .nestedTooDeep → room ≤ itemsDepth items
  | [], hhindered => nomatch hhindered
  | _ :: _, hhindered => by
    rw [hindranceInItems?, Option.or_eq_some_iff] at hhindered
    rcases hhindered with hitem | ⟨-, hrest⟩
    · exact (room_le_depth hitem).trans (Nat.le_max_left _ _)
    · exact (room_le_itemsDepth hrest).trans (Nat.le_max_right _ _)

theorem room_le_entriesDepth {room : Nat} : {entries : List (String × Datum)} →
    hindranceInEntries? room entries = some .nestedTooDeep → room ≤ entriesDepth entries
  | [], hhindered => nomatch hhindered
  | (_, _) :: _, hhindered => by
    rw [hindranceInEntries?, Option.or_eq_some_iff] at hhindered
    rcases hhindered with hvalue | ⟨-, hrest⟩
    · exact (room_le_depth hvalue).trans (Nat.le_max_left _ _)
    · exact (room_le_entriesDepth hrest).trans (Nat.le_max_right _ _)

end

theorem depth_lookup_lt (hfound : entries.lookup key = some given) :
    given.depth < (Datum.table entries).depth := by
  rw [depth, Nat.lt_succ_iff]
  induction entries with
  | nil => cases hfound
  | cons entry rest ih =>
    obtain ⟨name, value⟩ := entry
    rw [List.lookup_cons] at hfound
    split at hfound
    · cases hfound
      exact Nat.le_max_left _ _
    · exact (ih hfound).trans (Nat.le_max_right _ _)

theorem depth_item_lt (hitem : given ∈ items) : given.depth < (Datum.array items).depth := by
  rw [depth, Nat.lt_succ_iff]
  induction hitem with
  | head rest => exact Nat.le_max_left _ _
  | tail other _ ih => exact ih.trans (Nat.le_max_right _ _)

end Datum

namespace Config

variable {path : Path} {document entries cache : Entries} {config other : Config}
  {spec spec' : DeviceSpec} {isPriority : Datum → Prop}

/-! ## What may stand in a document -/

/-- What may stand in a table that declares a device. -/
structure DeviceSchema (isPriority : Datum → Prop) (entries : Entries) : Prop where
  name : ∃ name, name ≠ "" ∧ entries.lookup "name" = some (.string name)
  priority : ∀ given ∈ entries.lookup "priority", isPriority given
  tags : ∀ given ∈ entries.lookup "tags", ∃ tags, given = .table tags ∧
    ∀ tag ∈ tags, tag.1 ≠ "" ∧ ∃ text, tag.2 = .string text

/-- What may stand in a document. -/
structure Schema (isPriority : Datum → Prop) (document : Entries) : Prop where
  cache : ∀ given ∈ document.lookup "cache", ∃ cache, given = .table cache ∧
    ∀ version ∈ cache.lookup "version",
      ∃ number, version = .integer number ∧ number ≤ currentVersion
  priority : ∀ given ∈ document.lookup "priority", ∃ table, given = .table table ∧
    ∀ entry ∈ table, entry.2.IsInteger
  device : ∀ given ∈ document.lookup "device", ∃ tables : List Entries,
    given = .array (tables.map .table) ∧ ∀ entries ∈ tables, DeviceSchema isPriority entries

/-- A device of the document has a truth value as its priority. -/
def FlagsPriority (document : Entries) : Prop :=
  ∃ tables : List Entries, document.lookup "device" = some (.array (tables.map .table)) ∧
    ∃ entries ∈ tables, ∃ value, entries.lookup "priority" = some (.boolean value)

theorem tables_inj {tables tables' : List Entries}
    (heq : Datum.array (tables.map .table) = .array (tables'.map .table)) : tables = tables' :=
  List.map_injective_iff.mpr (fun _ _ => Datum.table.inj) (Datum.array.inj heq)

/-- The schema with integers only is the other one without truth values as priorities. -/
theorem schema_isInteger_iff : Schema Datum.IsInteger document ↔
    Schema Datum.IsWhole document ∧ ¬ FlagsPriority document := by
  constructor
  · intro hschema
    refine ⟨⟨hschema.cache, hschema.priority, fun given hgiven => ?_⟩, ?_⟩
    · obtain ⟨tables, rfl, htables⟩ := hschema.device given hgiven
      refine ⟨tables, rfl, fun entries hentries => ?_⟩
      have hdevice := htables entries hentries
      exact { hdevice with
        priority := fun given hgiven => (Datum.isInteger_iff.mp (hdevice.priority given hgiven)).1 }
    · rintro ⟨tables, hfound, entries, hentries, value, hvalue⟩
      obtain ⟨tables', heq, htables⟩ := hschema.device _ hfound
      obtain rfl := tables_inj heq
      exact (Datum.isInteger_iff.mp ((htables entries hentries).priority _ hvalue)).2 value rfl
  · rintro ⟨hschema, hnone⟩
    refine ⟨hschema.cache, hschema.priority, fun given hgiven => ?_⟩
    obtain ⟨tables, rfl, htables⟩ := hschema.device given hgiven
    refine ⟨tables, rfl, fun entries hentries => ?_⟩
    have hdevice := htables entries hentries
    refine { hdevice with
      priority := fun given hpriority =>
        Datum.isInteger_iff.mpr ⟨hdevice.priority given hpriority, ?_⟩ }
    rintro value rfl
    exact hnone ⟨tables, hgiven, entries, hentries, value, hpriority⟩

/-! ## What a document says -/

/-- What stands under a key, or else the default, is a part of the right form. -/
theorem forall_mem_iff_exists_getD {β : Type} {found : Option Datum} {make : β → Datum}
    {holds : β → Prop} (otherwise : β) (hotherwise : holds otherwise) :
    (∀ given ∈ found, ∃ part, given = make part ∧ holds part) ↔
      ∃ part, found.getD (make otherwise) = make part ∧ holds part := by
  cases found with
  | none => exact ⟨fun _ => ⟨otherwise, rfl, hotherwise⟩, fun _ => nofun⟩
  | some given => simp

theorem deviceSchema_iff :
    DeviceSchema Datum.IsWhole entries ↔ ∃ spec : DeviceSpec, spec.Valid ∧ SpecIn entries spec := by
  constructor
  · rintro ⟨⟨name, hnamed, hname⟩, hwhole, htags⟩
    obtain ⟨tags, hfound, hvalid⟩ := (forall_mem_iff_exists_getD [] (by simp)).mp htags
    have hpriority : ∃ priority, entries.lookup "priority" = Option.map Whole.toDatum priority := by
      cases hgiven : entries.lookup "priority" with
      | none => exact ⟨none, rfl⟩
      | some given =>
        obtain ⟨whole, rfl⟩ := hwhole given hgiven
        exact ⟨some whole, rfl⟩
    obtain ⟨priority, hpriority⟩ := hpriority
    exact ⟨⟨name, priority, tags⟩,
      ⟨hnamed, fun tag htag => (hvalid tag htag).1, fun tag htag => (hvalid tag htag).2⟩,
      hname, hpriority, hfound⟩
  · rintro ⟨spec, hvalid, hname, hpriority, htags⟩
    refine ⟨⟨spec.name, hvalid.named, hname⟩, fun given hgiven => ?_, ?_⟩
    · rw [hpriority] at hgiven
      obtain ⟨whole, -, rfl⟩ := Option.map_eq_some_iff.mp hgiven
      exact ⟨whole, rfl⟩
    · exact (forall_mem_iff_exists_getD [] (by simp)).mpr ⟨spec.tags, htags,
        fun tag htag => ⟨hvalid.tagsNamed tag htag, hvalid.texts tag htag⟩⟩

theorem exists_specs_iff {tables : List Entries} :
    (∀ entries ∈ tables, DeviceSchema Datum.IsWhole entries) ↔
      ∃ specs : List DeviceSpec, (∀ spec ∈ specs, spec.Valid) ∧ List.Forall₂ SpecIn tables specs := by
  induction tables with
  | nil => simp
  | cons entries rest ih =>
    rw [List.forall_mem_cons, deviceSchema_iff, ih]
    constructor
    · rintro ⟨⟨spec, hvalid, hspec⟩, specs, hspecs, hrest⟩
      exact ⟨spec :: specs, List.forall_mem_cons.mpr ⟨hvalid, hspecs⟩, .cons hspec hrest⟩
    · rintro ⟨specs, hvalid, hspecs⟩
      cases hspecs with
      | cons hspec hrest =>
        obtain ⟨hfirst, hmore⟩ := List.forall_mem_cons.mp hvalid
        exact ⟨⟨_, hfirst, hspec⟩, _, hmore, hrest⟩

theorem exists_priorities_iff :
    (∀ entry ∈ entries, entry.2.IsInteger) ↔ ∃ table : Priority.Table,
      (∀ entry ∈ table, ∃ priority, entry.2 = .integer priority) ∧ entries = tableEntries table := by
  constructor
  · intro hintegers
    induction entries with
    | nil => exact ⟨[], by simp, rfl⟩
    | cons entry rest ih =>
      obtain ⟨key, given⟩ := entry
      obtain ⟨⟨number, hnumber⟩, hrest⟩ := List.forall_mem_cons.mp hintegers
      obtain rfl : given = .integer number := hnumber
      obtain ⟨table, htable, rfl⟩ := ih hrest
      exact ⟨(key, .integer number) :: table, List.forall_mem_cons.mpr ⟨⟨number, rfl⟩, htable⟩, rfl⟩
  · rintro ⟨table, htable, rfl⟩ entry hentry
    obtain ⟨known, hknown, rfl⟩ := List.mem_map.mp hentry
    obtain ⟨number, hnumber⟩ := htable known hknown
    exact ⟨number, congrArg Whole.toDatum hnumber⟩

theorem defaultPriorities_integers :
    ∀ entry ∈ tableEntries defaultPriorities, entry.2.IsInteger :=
  exists_priorities_iff.mpr ⟨defaultPriorities, by simp [defaultPriorities], rfl⟩

theorem exists_version_iff :
    (∀ version ∈ cache.lookup "version",
        ∃ number, version = .integer number ∧ number ≤ currentVersion) ↔
      ∃ number, (cache.lookup "version").getD (.integer currentVersion) = .integer number ∧
        number ≤ currentVersion :=
  forall_mem_iff_exists_getD currentVersion (Int.le_refl _)

/-- The documents that follow the schema are those that a valid configuration stands in. -/
theorem schema_iff (path : Path) :
    Schema Datum.IsWhole document ↔
      ∃ config : Config, config.Valid ∧ ConfigIn path document config := by
  constructor
  · rintro ⟨hcache, hpriority, hdevice⟩
    obtain ⟨cache, hcache, hversion⟩ := (forall_mem_iff_exists_getD [] nofun).mp hcache
    obtain ⟨number, hnumber, hknown⟩ := exists_version_iff.mp hversion
    obtain ⟨_, hpriorities, hintegers⟩ :=
      (forall_mem_iff_exists_getD _ defaultPriorities_integers).mp hpriority
    obtain ⟨priorities, hnumbers, rfl⟩ := exists_priorities_iff.mp hintegers
    obtain ⟨tables, htables, hschemas⟩ := (forall_mem_iff_exists_getD [] (by simp)).mp hdevice
    obtain ⟨devices, hvalid, hdevices⟩ := exists_specs_iff.mp hschemas
    exact ⟨⟨path, .integer number, _, _, priorities, devices⟩,
      ⟨⟨number, hknown, rfl⟩, hnumbers, hvalid⟩,
      rfl, ⟨cache, hcache, hnumber, rfl, rfl⟩, hpriorities, tables, htables, hdevices⟩
  · rintro ⟨config, ⟨⟨number, hknown, hversion⟩, hnumbers, hvalid⟩, -, ⟨cache, hcache, hin⟩,
      hpriorities, tables, htables, hdevices⟩
    constructor
    case cache =>
      refine (forall_mem_iff_exists_getD [] nofun).mpr ⟨cache, hcache, ?_⟩
      exact exists_version_iff.mpr
        ⟨number, hin.version.trans (congrArg Whole.toDatum hversion), hknown⟩
    case priority =>
      exact (forall_mem_iff_exists_getD _ defaultPriorities_integers).mpr
        ⟨_, hpriorities, exists_priorities_iff.mpr ⟨_, hnumbers, rfl⟩⟩
    case device =>
      exact (forall_mem_iff_exists_getD [] (by simp)).mpr
        ⟨tables, htables, exists_specs_iff.mpr ⟨_, hvalid, hdevices⟩⟩

/-! ## One configuration -/

theorem SpecIn.unique (hspec : SpecIn entries spec) (hother : SpecIn entries spec') :
    spec = spec' := by
  have hname := hspec.name.symm.trans hother.name
  have hpriority := hspec.priority.symm.trans hother.priority
  have htags := hspec.tags.symm.trans hother.tags
  obtain ⟨name, priority, tags⟩ := spec
  obtain ⟨name', priority', tags'⟩ := spec'
  obtain rfl : name = name' := by simpa using hname
  obtain rfl : tags = tags' := by simpa using htags
  obtain rfl : priority = priority' :=
    Option.map_injective (fun _ _ => Whole.toDatum_inj.mp) hpriority
  rfl

/-- A document says one configuration of a directory. -/
theorem ConfigIn.unique (hconfig : ConfigIn path document config)
    (hother : ConfigIn path document other) : config = other := by
  obtain ⟨rfl, ⟨cache, hcache, hin⟩, hpriorities, tables, htables, hdevices⟩ := hconfig
  obtain ⟨hpath, ⟨cache', hcache', hin'⟩, hpriorities', tables', htables', hdevices'⟩ := hother
  obtain rfl : cache = cache' := Datum.table.inj (hcache.symm.trans hcache')
  obtain rfl := tables_inj (htables.symm.trans htables')
  have hversion := Whole.toDatum_inj.mp (hin.version.symm.trans hin'.version)
  have hmiss := hin.probeOnMiss.trans hin'.probeOnMiss.symm
  have hverify := hin.verifyPaths.trans hin'.verifyPaths.symm
  have hpriority := tableEntries_injective
    (Datum.table.inj (hpriorities.symm.trans hpriorities'))
  have hunique : Relator.RightUnique SpecIn := fun _ _ _ => SpecIn.unique
  have hdevice := List.right_unique_forall₂' hunique hdevices hdevices'
  cases config
  cases other
  simp only [Config.mk.injEq]
  exact ⟨hpath.symm, hversion, hmiss, hverify, hpriority, hdevice⟩

/-! ## Documents that are refused -/

/-- The reading fails for a wrong value only, or for one that is too deep to be shown, which is at
most so deep. -/
def Refuses {α : Type} (depth : Nat) (reading : Except Failure α) : Prop :=
  ∀ failure, reading = .error failure → failure.kind.isA .value ∨
    failure = .shownTooDeep ∧ Failure.roomToShow ≤ depth

namespace Refuses

variable {α β : Type} {depth deeper : Nat} {reading : Except Failure α} {failure : Failure}

theorem ok (value : α) : Refuses depth (.ok value : Except Failure α) := fun _ => nofun

theorem error (hkind : failure.kind.isA .value) :
    Refuses depth (.error failure : Except Failure α) := by
  rintro _ ⟨⟩
  exact .inl hkind

theorem mono (hrefuses : Refuses depth reading) (hle : depth ≤ deeper) : Refuses deeper reading :=
  fun failure herror => (hrefuses failure herror).imp_right fun hdeep =>
    ⟨hdeep.1, hdeep.2.trans hle⟩

theorem bind {next : α → Except Failure β} (hfirst : Refuses depth reading)
    (hnext : ∀ value, reading = .ok value → Refuses depth (next value)) :
    Refuses depth (reading >>= next) := by
  cases reading with
  | ok value => exact hnext value rfl
  | error failure =>
    rintro _ ⟨⟩
    exact hfirst failure rfl

theorem map {f : α → β} (hreading : Refuses depth reading) : Refuses depth (reading.map f) := by
  cases reading with
  | ok value => exact .ok _
  | error failure =>
    rintro _ ⟨⟩
    exact hreading failure rfl

/-- A failure that shows a value. -/
theorem showing {given : Datum} (hkind : failure.kind.isA .value) :
    Refuses given.depth (.error (.showing given failure) : Except Failure α) := by
  unfold Failure.showing
  split
  · exact .error hkind
  · next hhindered =>
    rintro _ ⟨⟩
    exact .inr ⟨rfl, Datum.room_le_depth hhindered⟩
  · exact .error rfl

end Refuses

variable {depth : Nat}

theorem refuses_tableAt {key : String} {otherwise : Failure} (hkind : otherwise.kind.isA .value) :
    Refuses depth (tableAt entries key otherwise) := by
  unfold tableAt
  split
  · exact .ok _
  · exact .ok _
  · exact .error hkind

theorem refuses_readVersion : Refuses ((Datum.table cache).depth - 1) (readVersion cache) := by
  have hless : ∀ {given}, cache.lookup "version" = some given →
      given.depth ≤ (Datum.table cache).depth - 1 :=
    fun hfound => Nat.le_sub_one_of_lt (Datum.depth_lookup_lt hfound)
  unfold readVersion
  split
  · exact .ok _
  · next version hfound =>
    split
    · exact (Refuses.showing rfl).mono (hless hfound)
    · exact .ok _
  · next given _ hfound => exact (Refuses.showing rfl).mono (hless hfound)

theorem refuses_readPriorities : Refuses depth (readPriorities document) := by
  have hentries : ∀ entries, Refuses depth (readPriorityEntries entries) := by
    intro entries
    fun_induction readPriorityEntries entries
    case case1 => exact .ok _
    case case2 ih => exact ih.map
    case case3 => exact .error rfl
  unfold readPriorities
  split
  · exact .ok _
  · exact hentries _
  · exact .error rfl

theorem refuses_readDeviceTables : Refuses depth (readDeviceTables document) := by
  unfold readDeviceTables
  split
  · exact .ok _
  · split
    · exact .ok _
    · exact .error rfl
  · exact .error rfl

theorem refuses_readDevice : Refuses (Datum.table entries).depth (readDevice entries) := by
  have hname : Refuses (Datum.table entries).depth (readDeviceName entries) := by
    unfold readDeviceName
    split
    · split
      · exact .showing rfl
      · exact .ok _
    · exact .showing rfl
  have hpriority : ∀ device, Refuses (Datum.table entries).depth
      (readDevicePriority device entries) := by
    intro device
    unfold readDevicePriority
    split
    · exact .ok _
    · split
      · exact .ok _
      · exact .error rfl
  have htags : ∀ device tags, Refuses (Datum.table entries).depth (checkTags device tags) := by
    intro device tags
    fun_induction checkTags device tags
    case case1 => exact .ok _
    case case2 => exact .error rfl
    case case3 ih => exact ih
    case case4 => exact .error rfl
  unfold readDevice
  refine hname.bind fun name _ => (hpriority name).bind fun priority _ => ?_
  refine (refuses_tableAt rfl).bind fun tags _ => ?_
  exact (htags name tags).bind fun _ _ => .ok _

theorem refuses_readDevices {tables : List Entries}
    (hdepth : ∀ entries ∈ tables, (Datum.table entries).depth ≤ depth) :
    Refuses depth (readDevices tables) := by
  induction tables with
  | nil => exact .ok _
  | cons entries rest ih =>
    obtain ⟨hfirst, hrest⟩ := List.forall_mem_cons.mp hdepth
    unfold readDevices
    refine (refuses_readDevice.mono hfirst).bind fun spec _ => ?_
    exact (ih hrest).bind fun specs _ => .ok _

/-- A document is refused for a value two levels inside it at least. -/
theorem refuses_ofDocument :
    Refuses ((Datum.table document).depth - 2) (ofDocument path document) := by
  -- A version stands in a table of the document, a name in a table of an array of it.
  have hcache : ∀ {cache}, tableAt document "cache" .cacheNotTable = .ok cache →
      (Datum.table cache).depth - 1 ≤ (Datum.table document).depth - 2 := by
    intro cache hread
    rw [tableAt_eq_ok_iff] at hread
    cases hfound : document.lookup "cache" with
    | none =>
      rw [hfound] at hread
      cases hread
      exact Nat.zero_le _
    | some given =>
      rw [hfound] at hread
      have hless := Datum.depth_lookup_lt hfound
      rw [show given = .table cache from hread] at hless
      omega
  have htables : ∀ {tables}, readDeviceTables document = .ok tables →
      ∀ entries ∈ tables, (Datum.table entries).depth ≤ (Datum.table document).depth - 2 := by
    intro tables hread entries hentries
    rw [readDeviceTables_eq_ok_iff] at hread
    cases hfound : document.lookup "device" with
    | none =>
      rw [hfound, Option.getD_none, eq_comm, Datum.array.injEq, List.map_eq_nil_iff] at hread
      rw [hread] at hentries
      cases hentries
    | some given =>
      rw [hfound] at hread
      have hless := Datum.depth_lookup_lt hfound
      have hitem : (Datum.table entries).depth < (Datum.array (tables.map .table)).depth :=
        Datum.depth_item_lt (List.mem_map_of_mem hentries)
      rw [show given = .array (tables.map .table) from hread] at hless
      omega
  unfold ofDocument
  refine (refuses_tableAt rfl).bind fun cache hread => ?_
  refine (refuses_readVersion.mono (hcache hread)).bind fun version _ => ?_
  refine refuses_readPriorities.bind fun priorities _ => ?_
  refine refuses_readDeviceTables.bind fun tables hread => ?_
  exact (refuses_readDevices (htables hread)).bind fun devices _ => .ok _

/-! ## Loading -/

variable {tree : FileTree} {directory : Path}

/-- Where the file holds a document, loading succeeds if the document follows the schema, and gives
the configuration that the document says. The schema is the one with integers only, but for truth
values that devices have as their priorities. On every other document a wrong value is reported,
unless it is nested too deep to be shown. -/
theorem load_follows_schema (hholds : Holds tree directory document) :
    (∀ config, outcome (load files directory) tree = (.ok config, tree) ↔
      Schema Datum.IsWhole document ∧ ConfigIn directory document config) ∧
    (Schema Datum.IsWhole document →
      ∃ config, outcome (load files directory) tree = (.ok config, tree)) ∧
    (Schema Datum.IsInteger document ↔
      Schema Datum.IsWhole document ∧ ¬ FlagsPriority document) ∧
    (¬ Schema Datum.IsWhole document →
      ∃ failure, outcome (load files directory) tree = (.error failure, tree) ∧
        (failure.kind.isA .value ∨ failure = .shownTooDeep ∧
          Failure.roomToShow + 2 ≤ (Datum.table document).depth)) := by
  have hloads : ∀ config, outcome (load files directory) tree = (.ok config, tree) ↔
      config.Valid ∧ ConfigIn directory document config := by
    intro config
    rw [outcome_load_of_holds hholds, Prod.mk.injEq, ofDocument_eq_ok_iff]
    exact and_iff_left rfl
  refine ⟨fun config => ?_, fun hschema => ?_, schema_isInteger_iff, fun hrefused => ?_⟩
  · rw [hloads, schema_iff directory]
    refine ⟨fun hin => ⟨⟨config, hin⟩, hin.2⟩, ?_⟩
    rintro ⟨⟨declared, hvalid, hdeclared⟩, hin⟩
    rw [hin.unique hdeclared]
    exact ⟨hvalid, hdeclared⟩
  · obtain ⟨config, hin⟩ := (schema_iff directory).mp hschema
    exact ⟨config, (hloads config).mpr hin⟩
  · cases hread : ofDocument directory document with
    | ok config =>
      exact absurd ((schema_iff directory).mpr ⟨config, ofDocument_eq_ok_iff.mp hread⟩) hrefused
    | error failure =>
      refine ⟨failure, by rw [outcome_load_of_holds hholds, hread], ?_⟩
      refine (refuses_ofDocument failure hread).imp_right fun ⟨htoo, hdeep⟩ => ⟨htoo, ?_⟩
      have hroom : 0 < Failure.roomToShow := by decide
      omega

/-- A version, a table of priorities and a device. -/
def describedText : String :=
  "[cache]\nversion=0\nverify_paths=true\n[priority]\nsd=5\n" ++
    "[[device]]\nname='sda'\npriority=-1\ntags.L='x'\n"

def describedDocument : Entries :=
  [("cache", .table [("version", .integer 0), ("verify_paths", .boolean true)]),
    ("priority", .table [("sd", .integer 5)]),
    ("device", .array [.table [("name", .string "sda"), ("priority", .integer (-1)),
      ("tags", .table [("L", .string "x")])]])]

def described : Config where
  path := rootDirectory
  version := .integer 0
  probeOnMiss := true
  verifyPaths := true
  priorities := [("sd", .integer 5)]
  devices := [⟨"sda", some (.integer (-1)), [("L", .string "x")]⟩]

theorem read_describedText : Toml.read describedText = .ok describedDocument := by
  cbv

theorem described_loads :
    Holds (treeHolding describedText) rootDirectory describedDocument ∧
      Schema Datum.IsInteger describedDocument ∧
      ConfigIn rootDirectory describedDocument described ∧
      outcome (load files rootDirectory) (treeHolding describedText) =
        (.ok described, treeHolding describedText) := by
  have hholds := holds_treeHolding read_describedText
  have hload : outcome (load files rootDirectory) (treeHolding describedText) =
      (.ok described, treeHolding describedText) := load_treeHolding read_describedText rfl
  obtain ⟨hloads, -, hstrict, -⟩ := load_follows_schema hholds
  obtain ⟨hschema, hin⟩ := (hloads described).mp hload
  refine ⟨hholds, hstrict.mpr ⟨hschema, ?_⟩, hin, hload⟩
  rintro ⟨tables, hfound, entries, hentries, value, hvalue⟩
  obtain rfl : tables = [[("name", .string "sda"), ("priority", .integer (-1)),
      ("tags", .table [("L", .string "x")])]] :=
    tables_inj (Option.some.inj hfound).symm
  rw [List.mem_singleton] at hentries
  subst hentries
  cases hvalue

/-- A device with a truth value as its priority. -/
def flaggedText : String := "[[device]]\nname='sda'\npriority=true\n"

def flaggedDocument : Entries :=
  [("device", .array [.table [("name", .string "sda"), ("priority", .boolean true)]])]

theorem read_flaggedText : Toml.read flaggedText = .ok flaggedDocument := by
  cbv

/-- The truth value is let through where the schema has integers only. -/
theorem flagged_loads :
    Holds (treeHolding flaggedText) rootDirectory flaggedDocument ∧
      ¬ Schema Datum.IsInteger flaggedDocument ∧
      ∃ config, outcome (load files rootDirectory) (treeHolding flaggedText) =
        (.ok config, treeHolding flaggedText) := by
  refine ⟨holds_treeHolding read_flaggedText, fun hschema => ?_, _,
    load_treeHolding read_flaggedText rfl⟩
  obtain ⟨tables, heq, htables⟩ := hschema.device _ rfl
  obtain rfl : tables = [[("name", .string "sda"), ("priority", .boolean true)]] :=
    tables_inj heq.symm
  obtain ⟨number, hnumber⟩ := (htables _ List.mem_cons_self).priority _ rfl
  cases hnumber

end Config

end DeviceTags
