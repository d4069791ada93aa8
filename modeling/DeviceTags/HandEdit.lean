import DeviceTags.Attachment

/-!
# Edits by hand

Changes of single fields that no other operation makes. They can leave the two sides of a link in
disagreement, which is what the audit is for. One of them lengthens the list of a head and so can run
out of memory.
-/

namespace DeviceTags

/-- A change of a record that keeps none of the links in step. -/
inductive HandEdit where
  | priority (d : DeviceId) (value : Priority)
  | flags (d : DeviceId) (value : DeviceFlags)
  | cache (d : DeviceId) (value : Option CacheId)
  | clearTags (d : DeviceId)
  | bareTag (d : DeviceId) (name value : String)
  | unhead (t : TagId)
  | owner (t : TagId) (value : Option DeviceId)
  | rename (t : TagId) (value : String)
  | repeatEntry (t : TagId)
  | clearHead (c : CacheId) (name : String)

def HandEdit.apply (change : HandEdit) (store : Store) : Store :=
  match change with
  | .priority d value => store.updateDevice d ({ · with priority := value })
  | .flags d value => store.updateDevice d ({ · with flags := value })
  | .cache d value => store.setDeviceCache d value
  | .clearTags d => store.updateDevice d ({ · with tags := [] })
  | .bareTag d name value =>
    let tagged := { store with tags := store.tags.add ⟨name, value, none, none⟩ }
    tagged.enterDevice d store.tags.next
  | .unhead t => store.setTagHead t none
  | .owner t value => store.setTagDevice t value
  | .rename t value => store.updateTag t ({ · with name := value })
  | .repeatEntry t =>
    match (store.tag t).head with
    | none => store
    | some h => store.enterHead h t
  | .clearHead c name =>
    match store.headOf? c name with
    | none => store
    | some h => store.updateHead h ({ · with tags := [] })

/-- Makes an edit as an operation. Only a further place in the list of a head is asked for; without it
nothing is changed. -/
def HandEdit.perform (change : HandEdit) : Op Unit := do
  match change with
  | .repeatEntry t =>
    if let some h := (← Op.tag t).head then Op.request (.headSlot h)
  | _ => pure ()
  Op.edit change.apply

end DeviceTags
