import DeviceTags.Collaborator

/-!
# Scripted collaborators

Collaborators of a host program that act by a script and note every call: a prober that brings in an
inventory and may hide that it did, and a verifier that rejects some devices, edits the device that
it is asked about, and may answer with another one.
-/

namespace DeviceTags

structure ScriptedProber where
  devices : List DeviceSpec
  marks : Bool

structure TagEdit where
  name : Datum
  value : Datum
  replace : Bool

structure ScriptedVerifier where
  rejected : List String
  edits : List TagEdit
  replacement : Option DeviceId

namespace Store

def clearProbed (store : Store) (c : CacheId) : Store :=
  store.updateCache c ({ · with probed := false })

end Store

/-- Brings in the devices of the script. A prober that does not mark the cache leaves it as probed as
it was. -/
def ScriptedProber.probe (script : ScriptedProber) (number : Nat) (c : CacheId) : Op Unit := do
  Op.note number none
  let before := (← Op.cache c).probed
  Inventory.probe { devices := script.devices } c
  if script.marks || before then pure () else Op.edit (·.clearProbed c)

def TagEdit.applyAll (d : DeviceId) : List TagEdit → Op Unit
  | [] => pure ()
  | edit :: rest => do
    Tagging.set (some d) edit.name edit.value edit.replace
    applyAll d rest

/-- Answers by the script. -/
def ScriptedVerifier.verify (script : ScriptedVerifier) (number : Nat) (d : Option DeviceId) :
    Op (Option DeviceId) := do
  match d with
  | none => throw (.ownerless "name")
  | some d =>
    let name := (← Op.device d).name
    Op.note number (some name)
    if script.rejected.contains name then return none
    else
      TagEdit.applyAll d script.edits
      return some (script.replacement.getD d)

end DeviceTags
