import DeviceTags.Inventory
import DeviceTags.Store.Table

/-!
# The store

Tags, index heads, devices and caches, linked by identity. A device lists its tags in order. Each tag
knows the device that owns it and the head it is linked into, and a head lists the tags of one name
that are linked into it; a cache maps names to heads and lists its devices. The two sides of a link
are stored separately, so a store can also hold links that disagree.
-/

namespace DeviceTags

/-- A single `NAME=value` attribute. -/
structure Tag where
  name : String
  value : String
  device : Option DeviceId
  head : Option HeadId
  deriving DecidableEq, Repr

/-- The tags of one name that the devices of a cache carry. -/
structure Head where
  name : String
  tags : List TagId
  deriving DecidableEq, Repr

/-- The state bits of a device; bits without a name are kept. -/
structure DeviceFlags where
  verified : Bool := false
  multiple : Bool := false
  invalid : Bool := false
  unnamed : Nat := 0
  deriving DecidableEq, Repr

/-- The tag names that a device gives direct access to. -/
inductive Alias where
  | type
  | label
  | uuid
  deriving DecidableEq, Repr

structure Aliases where
  type : Option TagId := none
  label : Option TagId := none
  uuid : Option TagId := none
  deriving DecidableEq, Repr

structure Device where
  name : String
  priority : Priority := .default
  flags : DeviceFlags := {}
  tags : List TagId := []
  cache : Option CacheId := none
  aliases : Aliases := {}
  deriving DecidableEq, Repr

/-- A container of devices with the index from tag names to heads, in the order of creation, and the
collaborators that its lookups use by default. -/
structure Cache where
  heads : List (String × HeadId) := []
  devices : List DeviceId := []
  probed : Bool := false
  changed : Bool := false
  prober : Option Prober := none
  verifier : Option Verifier := none

instance : Inhabited Tag := ⟨⟨"", "", none, none⟩⟩
instance : Inhabited Head := ⟨⟨"", []⟩⟩
instance : Inhabited Device := ⟨{ name := "" }⟩
instance : Inhabited Cache := ⟨{}⟩

namespace DeviceFlags

/-- The flags of a number; a negative one is taken in two's complement. -/
def ofInt (bits : Int) : DeviceFlags :=
  let bits : Nat :=
    if bits ≥ 0 then bits.toNat
    else if bits ≥ -8 then (8 + bits).toNat
    else (Nat.pow 2 (bits.natAbs.log2 + 1) + bits).toNat
  ⟨bits % 2 = 1, bits / 2 % 2 = 1, bits / 4 % 2 = 1, bits / 8 * 8⟩

def toNat (flags : DeviceFlags) : Nat :=
  flags.verified.toNat + 2 * flags.multiple.toNat + 4 * flags.invalid.toNat + flags.unnamed

end DeviceFlags

namespace Alias

def name : Alias → String
  | .type => "TYPE"
  | .label => "LABEL"
  | .uuid => "UUID"

def ofName? (name : String) : Option Alias :=
  [Alias.type, .label, .uuid].find? (·.name = name)

end Alias

namespace Aliases

def get (aliases : Aliases) : Alias → Option TagId
  | .type => aliases.type
  | .label => aliases.label
  | .uuid => aliases.uuid

/-- Puts a tag behind an alias, or none. -/
def set (aliases : Aliases) (which : Alias) (tag : Option TagId) : Aliases :=
  match which with
  | .type => { aliases with type := tag }
  | .label => { aliases with label := tag }
  | .uuid => { aliases with uuid := tag }

theorem get_set (aliases : Aliases) (which other : Alias) (tag : Option TagId) :
    (aliases.set which tag).get other = if other = which then tag else aliases.get other := by
  cases which <;> cases other <;> simp [get, set]

end Aliases

def Cache.flags (cache : Cache) : Nat :=
  2 * cache.probed.toNat + 4 * cache.changed.toNat

structure Store where
  tags : Table .tag Tag := {}
  heads : Table .head Head := {}
  devices : Table .device Device := {}
  caches : Table .cache Cache := {}

namespace Store

def tag (store : Store) (t : TagId) : Tag := store.tags.get t

def head (store : Store) (h : HeadId) : Head := store.heads.get h

def device (store : Store) (d : DeviceId) : Device := store.devices.get d

def cache (store : Store) (c : CacheId) : Cache := store.caches.get c

/-- Changes the record of a tag. -/
def updateTag (store : Store) (t : TagId) (change : Tag → Tag) : Store :=
  { store with tags := store.tags.update t change }

/-- Changes the record of a head. -/
def updateHead (store : Store) (h : HeadId) (change : Head → Head) : Store :=
  { store with heads := store.heads.update h change }

/-- Changes the record of a device. -/
def updateDevice (store : Store) (d : DeviceId) (change : Device → Device) : Store :=
  { store with devices := store.devices.update d change }

/-- Changes the record of a cache. -/
def updateCache (store : Store) (c : CacheId) (change : Cache → Cache) : Store :=
  { store with caches := store.caches.update c change }

def headOf? (store : Store) (c : CacheId) (name : String) : Option HeadId :=
  (store.cache c).heads.lookup name

/-- The names and values of the tags of a device, in order. -/
def pairs (store : Store) (d : DeviceId) : List (String × String) :=
  (store.device d).tags.map fun t => ((store.tag t).name, (store.tag t).value)

/-- The first tag of a name on a device. -/
def firstTag? (store : Store) (d : DeviceId) (name : String) : Option TagId :=
  (store.device d).tags.find? fun t => (store.tag t).name = name

def hasPair (store : Store) (d : DeviceId) (name value : String) : Bool :=
  (store.device d).tags.any fun t => (store.tag t).name = name ∧ (store.tag t).value = value

/-- What a direct access of a device reads: the value of the tag behind it, as long as the device
owns that tag. -/
def aliasValue (store : Store) (d : DeviceId) (which : Alias) : Option String :=
  match (store.device d).aliases.get which with
  | none => none
  | some t => if (store.tag t).device = some d then some (store.tag t).value else none

/-- The number by which a device is preferred. -/
def rank (store : Store) (d : DeviceId) : Int := (store.device d).priority.toInt

end Store

end DeviceTags
