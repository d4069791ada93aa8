import DeviceTags.Tagging

/-!
# Devices of a cache

Attaching a device indexes the tags that it brings along; removing one destroys its tags and leaves
the heads. An attachment that runs out of memory while it links the tags unlinks them again. One that
runs out of memory after that, where the cache is to list the device, takes nothing back.
-/

namespace DeviceTags

namespace Store

def markChanged (store : Store) (c : CacheId) : Store :=
  store.updateCache c ({ · with changed := true })

def clearChanged (store : Store) (c : CacheId) : Store :=
  store.updateCache c ({ · with changed := false })

def markProbed (store : Store) (c : CacheId) : Store :=
  store.updateCache c ({ · with probed := true })

def setDeviceCache (store : Store) (d : DeviceId) (c : Option CacheId) : Store :=
  store.updateDevice d ({ · with cache := c })

def enterCache (store : Store) (c : CacheId) (d : DeviceId) : Store :=
  store.updateCache c fun cache => { cache with devices := cache.devices ++ [d] }

/-- Takes the first occurrence of a device out of the list of a cache. -/
def leaveCache (store : Store) (c : CacheId) (d : DeviceId) : Store :=
  store.updateCache c fun cache => { cache with devices := cache.devices.erase d }

end Store

namespace Attachment

/-- Unlinks tags from their heads, one after the other. -/
def unlinkAll : List TagId → Op Unit
  | [] => pure ()
  | t :: rest => do
    Index.unlink t
    unlinkAll rest

/-- Links those of the tags that are in no head. If memory runs out, the tags linked so far and the
one that failed are unlinked again. -/
def linkAll (c : CacheId) (shortage : Failure) (headsBefore : List String) :
    List TagId → List TagId → Op Unit
  | _, [] => pure ()
  | linked, t :: rest => do
    if (← Op.tag t).head.isSome then linkAll c shortage headsBefore linked rest
    else
      Op.onShortage (discard (Index.link c t))
        (do
          unlinkAll (linked ++ [t])
          Index.discard c headsBefore
          throw shortage)
      linkAll c shortage headsBefore (linked ++ [t]) rest

/-- Attaches a device to a cache, unless it is attached there. -/
def add (c : CacheId) (d : Option DeviceId) : Op Unit := do
  let d ← Tagging.requireDevice d
  let device ← Op.device d
  if (← Op.cache c).devices.contains d then pure ()
  else if device.cache.isSome && device.cache ≠ some c then
    throw (.attachedElsewhere device.name)
  else
    let headsBefore ← Op.look (·.headNames c)
    linkAll c (.outOfMemoryAttaching device.name) headsBefore [] device.tags
    Op.edit (·.setDeviceCache d (some c))
    -- A shortage here leaves the tags linked and the device pointed to a cache that does not list it.
    Op.request .cacheSlot
    Op.edit fun store => (store.enterCache c d).markChanged c
    Op.log .debug .cache
      ("Attached device " ++ device.name ++ " (" ++
        String.ofList (Text.decimal device.tags.length) ++ " tags)")

/-- Destroys the tags of a list, one after the other. -/
def destroyTags : List TagId → Op Unit
  | [] => pure ()
  | t :: rest => do
    Tagging.unlink t
    destroyTags rest

/-- Removes a device from its cache, and all its tags with it. -/
def remove (c : CacheId) (d : Option DeviceId) : Op Unit := do
  let d ← Tagging.requireDevice d
  let device ← Op.device d
  if (← Op.cache c).devices.contains d then
    Op.log .debug .cache ("Freeing device " ++ device.name)
    destroyTags device.tags
    Op.edit fun store => ((store.setDeviceCache d none).leaveCache c d).markChanged c
  else throw (.notAttachedHere device.name)

def requireDeviceName : Option String → Except Failure String
  | none | some "" => .error .deviceNameRequired
  | some name => .ok name

/-- The first device of a name in a cache. -/
def named? (store : Store) (c : CacheId) (name : String) : Option DeviceId :=
  (store.cache c).devices.find? fun d => (store.device d).name = name

/-- The device of a name in a cache, if there is one. -/
def find (c : CacheId) (name : Option String) : Op (Option DeviceId) := do
  let name ← Tagging.checked (requireDeviceName name)
  Op.look fun store => named? store c name

/-- The device of a name in a cache, made and attached if it is missing. -/
def obtain (c : CacheId) (name : Option String) : Op DeviceId := do
  let name ← Tagging.checked (requireDeviceName name)
  match ← Op.look fun store => named? store c name with
  | some d => return d
  | none =>
    let d ← Op.newDevice { name }
    add c (some d)
    return d

end Attachment

end DeviceTags
