import DeviceTags.Datum
import DeviceTags.Priority

/-!
# Inventories and collaborators

The declared devices that fill a cache, and the collaborators that a cache calls: probers, which
bring devices in, and verifiers, which confirm a device before a lookup returns it. Collaborators
that the host program brings along are known by a number.
-/

namespace DeviceTags

/-- One declared device: its name, its priority if one is given, and its tags in order. The values
of the tags are checked when they are set. -/
structure DeviceSpec where
  name : String
  priority : Option Priority := none
  tags : List (String × Datum) := []

/-- Declared devices and the priorities of those that declare none. -/
structure Inventory where
  devices : List DeviceSpec := []
  priorities : Priority.Table := []

inductive Prober where
  | nothing
  | inventory (inventory : Inventory)
  | custom (number : Nat)

/-- A collaborator that confirms a device: by trusting it, or by looking for its path below a root
directory. -/
inductive Verifier where
  | trusting
  | paths (root : Option Path)
  | custom (number : Nat)

/-- The priority of a declared device: its own, or the one that the table gives its name. -/
def Inventory.priorityOf (inventory : Inventory) (spec : DeviceSpec) : Priority :=
  spec.priority.getD (.ofName inventory.priorities spec.name)

def devicePath (root : Option Path) (name : String) : Path :=
  match root with
  | none => .ofString name
  | some root => root.join (.ofString (String.ofList (name.toList.dropWhile (· = '/'))))

end DeviceTags
