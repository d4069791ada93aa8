import DeviceTags.Store.Basic

/-!
# Audit of the index

Whether the tag lists of the devices of a cache and the heads of its index agree. Devices are looked
at first, tag by tag, and then the heads, entry by entry; every disagreement is described.
-/

namespace DeviceTags

/-- One disagreement between the two sides of the index. The names are those of the device or the
head at which it shows. -/
inductive Problem where
  | foreignBackReference (device : String)
  | ownedElsewhere (device tag : String)
  | notLinked (device tag : String)
  | missingOrRepeated (device tag : String)
  | misnamed (head tag : String)
  | dangling (head tag value : String)
  | unregistered (head tag value device : String)
  deriving DecidableEq, Repr

/-- The description of a disagreement. -/
def Problem.message : Problem → String
  | .foreignBackReference device => device ++ ": back-reference to another cache"
  | .ownedElsewhere device tag => device ++ ": tag " ++ tag ++ " owned by another device"
  | .notLinked device tag => device ++ ": tag " ++ tag ++ " not linked to its head"
  | .missingOrRepeated device tag => device ++ ": tag " ++ tag ++ " missing or repeated in head"
  | .misnamed head tag => "head " ++ head ++ ": holds tag named " ++ tag
  | .dangling head tag value => "head " ++ head ++ ": dangling tag " ++ tag ++ "=" ++ value
  | .unregistered head tag value device =>
    "head " ++ head ++ ": tag " ++ tag ++ "=" ++ value ++ " on unregistered device " ++ device

namespace Audit

variable (store : Store) (c : CacheId)

/-- What is wrong with the link between a tag in the list of a device and its head. -/
def linkProblems (device : String) (t : TagId) : List Problem :=
  let tag := store.tag t
  match store.headOf? c tag.name with
  | none => [.notLinked device tag.name]
  | some h =>
    if tag.head ≠ some h then [.notLinked device tag.name]
    else if (store.head h).tags.count t ≠ 1 then [.missingOrRepeated device tag.name]
    else []

/-- What is wrong with a tag in the list of a device. -/
def tagProblems (d : DeviceId) (t : TagId) : List Problem :=
  let device := (store.device d).name
  (if (store.tag t).device = some d then [] else [.ownedElsewhere device (store.tag t).name]) ++
    linkProblems store c device t

def deviceProblems (d : DeviceId) : List Problem :=
  (if (store.device d).cache = some c then [] else [.foreignBackReference (store.device d).name]) ++
    (store.device d).tags.flatMap (tagProblems store c d)

/-- What is wrong with the owner of a tag in the list of a head. -/
def ownerProblems (name : String) (t : TagId) : List Problem :=
  let tag := store.tag t
  match tag.device with
  | none => [.dangling name tag.name tag.value]
  | some d =>
    if (store.device d).cache ≠ some c ∨ t ∉ (store.device d).tags then
      [.dangling name tag.name tag.value]
    else if d ∉ (store.cache c).devices then
      [.unregistered name tag.name tag.value (store.device d).name]
    else []

def entryProblems (name : String) (t : TagId) : List Problem :=
  (if (store.tag t).name = name then [] else [.misnamed name (store.tag t).name]) ++
    ownerProblems store c name t

def headProblems (name : String) (h : HeadId) : List Problem :=
  (store.head h).tags.flatMap (entryProblems store c name)

/-- Everything that is wrong with the index of a cache. -/
def problems : List Problem :=
  (store.cache c).devices.flatMap (deviceProblems store c) ++
    (store.cache c).heads.flatMap fun entry => headProblems store c entry.1 entry.2

end Audit

end DeviceTags
