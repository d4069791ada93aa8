import DeviceTags.Config.Basic
import DeviceTags.Failure

/-!
# Configurations as documents

A document has a table `cache`, a table `priority` and a list `device` of tables; each may be
missing. Reading checks the parts in this order and reports the first thing that is wrong. Writing
gives every part but an empty list of devices, so that reading gives the configuration back.
-/

namespace DeviceTags.Config

/-- The entries of a document or of a table in it. -/
abbrev Entries := List (String × Datum)

/-- The table under a key, empty if there is none. -/
def tableAt (entries : Entries) (key : String) (otherwise : Failure) : Except Failure Entries :=
  match entries.lookup key with
  | none => .ok []
  | some (.table table) => .ok table
  | some _ => .error otherwise

/-- The version of a format that is not newer than this one. -/
def readVersion (cache : Entries) : Except Failure Whole :=
  match cache.lookup "version" with
  | none => .ok (.integer currentVersion)
  | some (.integer version) =>
    if version > currentVersion then
      .error (.showing (.integer version) (.versionTooNew version currentVersion))
    else .ok (.integer version)
  | some given => .error (.showing given (.versionNotInteger given))

/-- The entries of a table of priorities, which are numbers. -/
def readPriorityEntries : Entries → Except Failure Priority.Table
  | [] => .ok []
  | (key, .integer value) :: rest =>
    (readPriorityEntries rest).map ((key, .integer value) :: ·)
  | (key, _) :: _ => .error (.priorityNotInteger key)

def readPriorities (document : Entries) : Except Failure Priority.Table :=
  match document.lookup "priority" with
  | none => .ok defaultPriorities
  | some (.table entries) => readPriorityEntries entries
  | some _ => .error .priorityNotTable

def tablesIn : List Datum → Option (List Entries)
  | [] => some []
  | .table entries :: rest => (tablesIn rest).map (entries :: ·)
  | _ :: _ => none

def readDeviceTables (document : Entries) : Except Failure (List Entries) :=
  match document.lookup "device" with
  | none => .ok []
  | some (.array items) =>
    match tablesIn items with
    | some tables => .ok tables
    | none => .error .devicesNotTables
  | some _ => .error .devicesNotTables

/-- A declared device has no name. The message shows the whole declaration. -/
def nameMissing (entries : Entries) : Failure :=
  .showing (.table entries) (.deviceNameMissing (.table entries))

/-- The name of a declared device, which is a text with something in it. -/
def readDeviceName (entries : Entries) : Except Failure String :=
  match entries.lookup "name" with
  | some (.string name) =>
    if name = "" then .error (nameMissing entries) else .ok name
  | _ => .error (nameMissing entries)

/-- The priority of a declared device, if it declares one. -/
def readDevicePriority (device : String) (entries : Entries) : Except Failure (Option Priority) :=
  match entries.lookup "priority" with
  | none => .ok none
  | some given =>
    match Whole.ofDatum? given with
    | some priority => .ok (some priority)
    | none => .error (.devicePriorityNotInteger device)

/-- Checks the tags of a declared device: names with something in them, and texts as values. -/
def checkTags (device : String) : Entries → Except Failure Unit
  | [] => .ok ()
  | (key, value) :: rest =>
    if key = "" then .error (.tagNameInvalid (.string ""))
    else
      match value with
      | .string _ => checkTags device rest
      | _ => .error (.deviceTagNotString device key)

def readDevice (entries : Entries) : Except Failure DeviceSpec := do
  let name ← readDeviceName entries
  let priority ← readDevicePriority name entries
  let tags ← tableAt entries "tags" (.deviceTagsNotTable name)
  checkTags name tags
  return ⟨name, priority, tags⟩

def readDevices : List Entries → Except Failure (List DeviceSpec)
  | [] => .ok []
  | entries :: rest => do
    let spec ← readDevice entries
    let specs ← readDevices rest
    return spec :: specs

/-- The truth of an entry, which may be of any type. -/
def truthAt (entries : Entries) (key : String) (otherwise : Bool) : Bool :=
  match entries.lookup key with
  | none => otherwise
  | some given => given.isTrue

def ofDocument (path : Path) (document : Entries) : Except Failure Config := do
  let cache ← tableAt document "cache" .cacheNotTable
  let version ← readVersion cache
  let priorities ← readPriorities document
  let tables ← readDeviceTables document
  let devices ← readDevices tables
  return {
    path, version, priorities, devices
    probeOnMiss := truthAt cache "probe_on_miss" true
    verifyPaths := truthAt cache "verify_paths" false }

def deviceEntries (spec : DeviceSpec) : Entries :=
  ("name", .string spec.name) ::
    (match spec.priority with
      | none => []
      | some priority => [("priority", priority.toDatum)]) ++ [("tags", .table spec.tags)]

def toDocument (config : Config) : Entries :=
  [("cache", .table [
      ("version", config.version.toDatum),
      ("probe_on_miss", .boolean config.probeOnMiss),
      ("verify_paths", .boolean config.verifyPaths)]),
    ("priority", .table (config.priorities.map fun entry => (entry.1, entry.2.toDatum)))] ++
  (if config.devices.isEmpty then []
    else [("device", .array (config.devices.map fun spec => .table (deviceEntries spec)))])

end DeviceTags.Config
