import DeviceTags.Failure
import DeviceTags.Journal
import DeviceTags.Store.Basic

/-!
# Operations

An operation reads and changes the store, writes log records, asks for memory, and succeeds or fails.
A failed operation keeps the changes that it made before it failed: what has to be undone is undone
by the operation itself. Memory is granted from a supply that says for each sort of request how many
are still granted, so that running out can be placed at any request.
-/

namespace DeviceTags

/-- What an operation asks memory for: a new tag, a place in the tag list of a device, a new head, a
place in the list of a head, or a place in the device list of a cache. -/
inductive Request where
  | tag
  | deviceSlot
  | head
  | headSlot (head : HeadId)
  | cacheSlot
  deriving DecidableEq, Repr

/-- How many requests of each sort are still granted; all of them where no number is given. -/
abbrev Supply := Request → Option Nat

def Supply.unlimited : Supply := fun _ => none

/-- What a collaborator of the host program notes: its number, and the name that it was asked about
if it was asked about one. -/
structure Note where
  collaborator : Nat
  subject : Option String
  deriving DecidableEq, Repr

/-- What operations act on. The log and the notes have the newest entry first. -/
structure Memory where
  store : Store := {}
  supply : Supply := .unlimited
  log : List Record := []
  notes : List Note := []

abbrev Op := EStateM Failure Memory

namespace Op

variable {α : Type}

def look (read : Store → α) : Op α :=
  fun memory => .ok (read memory.store) memory

def edit (change : Store → Store) : Op Unit :=
  fun memory => .ok () { memory with store := change memory.store }

def log (level : Level) (source : Source) (message : String) : Op Unit :=
  fun memory => .ok () { memory with log := ⟨level, source.logger, message⟩ :: memory.log }

def note (collaborator : Nat) (subject : Option String) : Op Unit :=
  fun memory => .ok () { memory with notes := ⟨collaborator, subject⟩ :: memory.notes }

def request (what : Request) : Op Unit := fun memory =>
  match memory.supply what with
  | none => .ok () memory
  | some 0 => .error .outOfMemory memory
  | some (granted + 1) =>
    .ok () { memory with
      supply := fun other => if other = what then some granted else memory.supply other }

/-- Does something else in place of an operation that runs out of memory, in the state in which it
ran out. -/
def onShortage (operation instead : Op α) : Op α := fun memory =>
  match operation memory with
  | .error .outOfMemory after => instead after
  | outcome => outcome

def tag (t : TagId) : Op Tag := look (·.tag t)

def head (h : HeadId) : Op Head := look (·.head h)

def device (d : DeviceId) : Op Device := look (·.device d)

def cache (c : CacheId) : Op Cache := look (·.cache c)

def newTag (record : Tag) : Op TagId := do
  let t ← look (·.tags.next)
  edit fun store => { store with tags := store.tags.add record }
  return t

def newHead (record : Head) : Op HeadId := do
  let h ← look (·.heads.next)
  edit fun store => { store with heads := store.heads.add record }
  return h

def newDevice (record : Device) : Op DeviceId := do
  let d ← look (·.devices.next)
  edit fun store => { store with devices := store.devices.add record }
  return d

def newCache (record : Cache) : Op CacheId := do
  let c ← look (·.caches.next)
  edit fun store => { store with caches := store.caches.add record }
  return c

/-! ## What the elementary operations do -/

@[simp] theorem pure_apply (value : α) (memory : Memory) :
    (pure value : Op α) memory = .ok value memory := rfl

@[simp] theorem throw_apply (failure : Failure) (memory : Memory) :
    (throw failure : Op α) memory = .error failure memory := rfl

theorem bind_apply {β : Type} (first : Op α) (next : α → Op β) (memory : Memory) :
    (first >>= next) memory =
      match first memory with
      | .ok value after => next value after
      | .error failure after => .error failure after := by
  cases hfirst : first memory <;> simp [bind, EStateM.bind, hfirst]

theorem bind_of_ok {β : Type} {first : Op α} {memory after : Memory} {value : α}
    (hfirst : first memory = .ok value after) (next : α → Op β) :
    (first >>= next) memory = next value after := by
  rw [bind_apply, hfirst]

theorem bind_of_error {β : Type} {first : Op α} {memory after : Memory} {failure : Failure}
    (hfirst : first memory = .error failure after) (next : α → Op β) :
    (first >>= next) memory = .error failure after := by
  rw [bind_apply, hfirst]

@[simp] theorem look_apply (read : Store → α) (memory : Memory) :
    look read memory = .ok (read memory.store) memory := rfl

@[simp] theorem edit_apply (change : Store → Store) (memory : Memory) :
    edit change memory = .ok () { memory with store := change memory.store } := rfl

theorem request_of_unlimited {what : Request} {memory : Memory}
    (hsupply : memory.supply what = none) : request what memory = .ok () memory := by
  rw [request, hsupply]

theorem request_of_spent {what : Request} {memory : Memory}
    (hsupply : memory.supply what = some 0) :
    request what memory = .error .outOfMemory memory := by
  rw [request, hsupply]

theorem onShortage_of_ok {operation instead : Op α} {memory after : Memory} {value : α}
    (hoperation : operation memory = .ok value after) :
    onShortage operation instead memory = .ok value after := by
  rw [onShortage, hoperation]

theorem onShortage_of_shortage {operation instead : Op α} {memory after : Memory}
    (hoperation : operation memory = .error .outOfMemory after) :
    onShortage operation instead memory = instead after := by
  rw [onShortage, hoperation]

end Op

end DeviceTags
