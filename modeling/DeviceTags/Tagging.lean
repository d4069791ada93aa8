import DeviceTags.Index

/-!
# Tags of a device

Setting, adding and deleting the tags of a device, and asking for them. Every tag that is made enters
the list of its device and, if the device belongs to a cache, the head of its name; every tag that is
destroyed leaves both. Running out of memory leaves the device and the index as they were.
-/

namespace DeviceTags

namespace Store

def enterDevice (store : Store) (d : DeviceId) (t : TagId) : Store :=
  store.updateDevice d fun device => { device with tags := device.tags ++ [t] }

/-- Takes the first occurrence of a tag out of the list of a device, if there is one. -/
def leaveDevice (store : Store) (d : DeviceId) (t : TagId) : Store :=
  store.updateDevice d fun device => { device with tags := device.tags.erase t }

/-- Takes every tag of a name out of the list of a device. -/
def dropNamed (store : Store) (d : DeviceId) (name : String) : Store :=
  store.updateDevice d fun device =>
    { device with tags := device.tags.filter fun t => (store.tag t).name ≠ name }

/-- Puts a tag behind the direct access of a name, if the device has one for the name. The type stays
with the tag that set it first. -/
def linkAlias (store : Store) (d : DeviceId) (name : String) (t : Option TagId) : Store :=
  match Alias.ofName? name with
  | none => store
  | some which =>
    if which = .type ∧ t.isSome ∧ (store.aliasValue d .type).isSome then store
    else store.updateDevice d fun device => { device with aliases := device.aliases.set which t }

/-- Notes in the cache of a device that the cache changed. -/
def markDeviceChanged (store : Store) (d : DeviceId) : Store :=
  match (store.device d).cache with
  | none => store
  | some c => store.updateCache c ({ · with changed := true })

def setTagValue (store : Store) (t : TagId) (value : String) : Store :=
  store.updateTag t ({ · with value })

/-- Notes that a device has several tags of one name. -/
def markMultiple (store : Store) (d : DeviceId) : Store :=
  store.updateDevice d fun device => { device with flags := { device.flags with multiple := true } }

end Store

namespace Tagging

/-- Takes a tag out of the list of the device that owns it, and then out of its head. A tag that
points to a list that does not hold it is an error. -/
def unlink (t : TagId) : Op Unit := do
  match (← Op.tag t).device with
  | none => pure ()
  | some d =>
    if (← Op.device d).tags.contains t then
      Op.edit fun store => (store.leaveDevice d t).setTagDevice t none
    else throw .tagNotListed
  match (← Op.tag t).head with
  | none => pure ()
  | some h =>
    if (← Op.head h).tags.contains t then
      Op.edit fun store => (store.leaveHead h t).setTagHead t none
    else throw .tagNotListed

/-- Destroys the tags of a list, one after the other. -/
def destroy (deviceName : String) : List TagId → Op Unit
  | [] => pure ()
  | t :: rest => do
    let tag ← Op.tag t
    Op.log .debug .tag ("Freeing tag " ++ tag.name ++ "=" ++ tag.value ++ " on " ++ deviceName)
    unlink t
    destroy deviceName rest

/-- Deletes every tag of a name. Tags that do not know their device leave its list, too. -/
def delete (d : DeviceId) (name : String) : Op Unit := do
  let device ← Op.device d
  let named ← Op.look fun store => device.tags.filter fun t => (store.tag t).name = name
  destroy device.name named
  Op.edit fun store => ((store.dropNamed d name).linkAlias d name none).markDeviceChanged d

/-- Takes back the making of a tag that ran out of memory: the tag leaves the index and its device,
and so do the heads that were not there before. -/
def withdraw (d : DeviceId) (t : TagId) (cache : Option CacheId) (headsBefore : List String) :
    Op Unit := do
  if cache.isSome then Index.unlink t
  Op.edit fun store => (store.leaveDevice d t).setTagDevice t none
  match cache with
  | none => pure ()
  | some c => Index.discard c headsBefore

/-- Makes a tag and appends it to its device and to the head of its name. -/
def append (d : DeviceId) (name value : String) : Op TagId := do
  let device ← Op.device d
  let headsBefore ← Op.look fun store => (device.cache.map store.headNames).getD []
  let shortage : Failure := .outOfMemorySetting name device.name
  Op.onShortage (Op.request .tag) (throw shortage)
  let t ← Op.newTag ⟨name, value, some d, none⟩
  Op.onShortage
    (do
      Op.request .deviceSlot
      Op.edit (·.enterDevice d t)
      match device.cache with
      | none => pure ()
      | some c => discard (Index.link c t))
    (do
      withdraw d t device.cache headsBefore
      throw shortage)
  return t

/-- Sets a tag. The value that the first tag of the name has already is left alone. Another one takes
its place if that is asked for, and is added beside it otherwise. -/
def assign (d : DeviceId) (name value : String) (replace : Bool) : Op Unit := do
  match ← Op.look (·.firstTag? d name) with
  | none =>
    let t ← append d name value
    Op.edit fun store => (store.linkAlias d name (some t)).markDeviceChanged d
  | some first =>
    if (← Op.tag first).value = value then pure ()
    else if replace then
      Op.edit fun store =>
        ((store.setTagValue first value).linkAlias d name (some first)).markDeviceChanged d
    else
      let t ← append d name value
      Op.edit fun store => ((store.markMultiple d).linkAlias d name (some t)).markDeviceChanged d

def requireDevice : Option DeviceId → Op DeviceId
  | none => throw .deviceRequired
  | some d => pure d

/-- The name that an argument must be: a text with something in it. -/
def requireName : Datum → Except Failure String
  | .string name => if name = "" then .error (.tagNameInvalid (.string "")) else .ok name
  | given => .error (.tagNameInvalid given)

/-- The value that an argument must be: a text, or nothing. -/
def requireValue : Datum → Except Failure (Option String)
  | .none => .ok none
  | .string value => .ok (some value)
  | given => .error (.tagValueInvalid given)

def checked {α : Type} : Except Failure α → Op α
  | .ok value => pure value
  | .error failure => throw failure

/-- Sets, adds or deletes a tag: a value is set, no value deletes every tag of the name. -/
def set (d : Option DeviceId) (name value : Datum) (replace : Bool) : Op Unit := do
  let d ← requireDevice d
  let name ← checked (requireName name)
  match ← checked (requireValue value) with
  | none => delete d name
  | some value => assign d name value replace

/-- The first tag of a name. -/
def find (d : Option DeviceId) (name : Datum) : Op (Option TagId) := do
  let d ← requireDevice d
  let name ← checked (requireName name)
  Op.look (·.firstTag? d name)

/-- Whether the device has a tag of this name and value. No tag has a value that is not a text. -/
def has (d : Option DeviceId) (name value : Datum) : Op Bool := do
  let d ← requireDevice d
  let name ← checked (requireName name)
  match value with
  | .string value => Op.look (·.hasPair d name value)
  | _ => pure false

end Tagging

end DeviceTags
