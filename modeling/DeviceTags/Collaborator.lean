import DeviceTags.Attachment

/-!
# What collaborators do

A prober brings devices into a cache and marks it as probed when it is done; an inventory brings in
its devices with their priorities and tags, in order, and a failure on the way keeps what was brought
in before. A verifier answers with the device that it confirms, or with none; one that looks for
paths also removes a device whose path is gone.
-/

namespace DeviceTags

/-- What the host program brings along: the paths that exist, and its own collaborators. A verifier
may be asked about an entry of the index that no device owns. -/
structure Host where
  contains : Path → Except FileError Bool
  probe : Nat → CacheId → Op Unit
  verify : Nat → CacheId → Option DeviceId → Op (Option DeviceId)

namespace Store

def setPriority (store : Store) (d : DeviceId) (priority : Priority) : Store :=
  store.updateDevice d ({ · with priority })

/-- Notes that the path of a device was found. Bits without a name are dropped. -/
def markFound (store : Store) (d : DeviceId) : Store :=
  store.updateDevice d fun device =>
    { device with flags := { verified := true, multiple := device.flags.multiple } }

def markGone (store : Store) (d : DeviceId) : Store :=
  store.updateDevice d fun device => { device with flags := { device.flags with invalid := true } }

end Store

namespace Inventory

/-- Sets the declared tags of a device, each as the only value that matters for its name. -/
def bringTags (d : DeviceId) : List (String × Datum) → Op Unit
  | [] => pure ()
  | (name, value) :: rest => do
    Tagging.set (some d) (.string name) value true
    bringTags d rest

def bringDevice (inventory : Inventory) (c : CacheId) (spec : DeviceSpec) : Op Unit := do
  let d ← Attachment.obtain c (some spec.name)
  Op.edit (·.setPriority d (inventory.priorityOf spec))
  bringTags d spec.tags

/-- Brings declared devices into a cache, one after the other. -/
def bringDevices (inventory : Inventory) (c : CacheId) : List DeviceSpec → Op Unit
  | [] => pure ()
  | spec :: rest => do
    bringDevice inventory c spec
    bringDevices inventory c rest

/-- Brings all declared devices into a cache, which counts as probed then. -/
def probe (inventory : Inventory) (c : CacheId) : Op Unit := do
  Op.log .debug .probe
    ("Probing " ++ String.ofList (Text.decimal inventory.devices.length) ++ " inventory devices")
  bringDevices inventory c inventory.devices
  Op.edit (·.markProbed c)
  let cache ← Op.cache c
  Op.log .info .probe
    ("Probe complete: " ++ String.ofList (Text.decimal cache.devices.length) ++
      " devices in cache")

end Inventory

def Prober.probe (host : Host) (c : CacheId) : Prober → Op Unit
  | .nothing => Op.edit (·.markProbed c)
  | .inventory declared => declared.probe c
  | .custom number => host.probe number c

/-- Confirms a device whose path exists, and removes one whose path does not from the cache. -/
def verifyPath (host : Host) (root : Option Path) (c : CacheId) (d : DeviceId) :
    Op (Option DeviceId) := do
  let device ← Op.device d
  match host.contains (devicePath root device.name) with
  | .error error => throw (.file error)
  | .ok true =>
    Op.edit (·.markFound d)
    return some d
  | .ok false =>
    Op.log .info .probe ("Device " ++ device.name ++ " no longer exists, removing from cache")
    Op.edit (·.markGone d)
    if device.cache = some c then Attachment.remove c (some d)
    return none

def Verifier.verify (host : Host) (c : CacheId) (d : Option DeviceId) :
    Verifier → Op (Option DeviceId)
  | .trusting => pure d
  | .paths root =>
    match d with
    | none => throw (.ownerless "name")
    | some d => verifyPath host root c d
  | .custom number => host.verify number c d

end DeviceTags
