import DeviceTags.Json
import DeviceTags.Store.Basic
import DeviceTags.Text.Quoted

/-!
# Descriptions

How records are shown: a device as a line of its tags and as a JSON object, and tags, devices and
caches by their fields. Flags are shown by the names of the bits that are set and by their number.
-/

namespace DeviceTags

def countText (n : Nat) : String :=
  String.ofList (Text.decimal n)

/-- A line that shows a device name and its tags, each with its value in double quotes. -/
def deviceLine (name : String) (pairs : List (String × String)) : String :=
  if pairs.isEmpty then name ++ ":"
  else name ++ ": " ++ " ".intercalate (pairs.map fun pair => pair.1 ++ "=\"" ++ pair.2 ++ "\"")

def pairJson (pair : String × String) : Json :=
  .array [.string pair.1, .string pair.2]

/-- The JSON value of a whole number. -/
def Whole.json : Whole → Json
  | .integer value => .integer value
  | .boolean value => .boolean value

/-- Flags with the name of their type, the names of the bits that are set, what is left of the number
without them, and the number. -/
def flagsText (type : String) (names : List String) (unnamed number : Nat) : String :=
  let shown :=
    if number = 0 then ["NONE"]
    else names ++ (if names.isEmpty || unnamed = 0 then [] else [countText unnamed])
  let label := if shown.isEmpty then type else type ++ "." ++ "|".intercalate shown
  "<" ++ label ++ ": " ++ countText number ++ ">"

def DeviceFlags.text (flags : DeviceFlags) : String :=
  let names :=
    (if flags.verified then ["VERIFIED"] else []) ++ (if flags.multiple then ["MTYPE"] else []) ++
      (if flags.invalid then ["INVALID"] else [])
  flagsText "DeviceFlag" names flags.unnamed flags.toNat

def Cache.flagsText (cache : Cache) : String :=
  let names :=
    (if cache.probed then ["PROBED"] else []) ++ (if cache.changed then ["CHANGED"] else [])
  DeviceTags.flagsText "CacheFlag" names 0 cache.flags

def Tag.fieldsText (tag : Tag) : String :=
  "Tag(name=" ++ Text.quoted tag.name ++ ", value=" ++ Text.quoted tag.value ++ ")"

def Device.fieldsText (device : Device) : String :=
  "Device(name=" ++ Text.quoted device.name ++ ", priority=" ++
    device.priority.toDatum.literal ++ ", flags=" ++ device.flags.text ++ ")"

def Cache.fieldsText (cache : Cache) : String :=
  "Cache(devices=" ++ countText cache.devices.length ++ ", heads=" ++
    countText cache.heads.length ++ ", flags=" ++ cache.flagsText ++ ")"

namespace Store

def deviceText (store : Store) (d : DeviceId) : String :=
  deviceLine (store.device d).name (store.pairs d)

/-- The JSON object of a device. -/
def deviceJson (store : Store) (d : DeviceId) : Json :=
  .object [("name", .string (store.device d).name),
    ("priority", (store.device d).priority.json),
    ("tags", .array ((store.pairs d).map pairJson))]

end Store

end DeviceTags
