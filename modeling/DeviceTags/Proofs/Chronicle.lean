import DeviceTags.Proofs.Lookup.Conversation

/-!
# In which order tags were set

Which of several labels a device reads depends on the order in which they were set, and the store does
not keep that order. Here the operations of a run are performed with a chronicle of the tags that
were created or overwritten, the latest last. Tags are set one by one, also by an inventory that a
lookup brings in on its way, and each time the chronicle grows by what was written. It changes nothing
else, so that every state that a run leads to has a chronicle.
-/

namespace DeviceTags

open Lookup (Quest)

variable {σ τ α β : Type}

/-- An operation beside which something is carried along that it does not touch. -/
def Op.carry (operation : Op α) : EStateM Failure (Memory × τ) α := fun state =>
  match operation state.1 with
  | .ok value after => .ok value (after, state.2)
  | .error failure after => .error failure (after, state.2)

theorem Does.carried {operation : Op α} {state : Memory × τ} {done : α → Memory × τ → Prop}
    {failed : Failure → Memory × τ → Prop}
    (hdoes : Does operation state.1 (fun value after => done value (after, state.2))
      fun failure after => failed failure (after, state.2)) :
    Does operation.carry state done failed := by
  unfold Does Op.carry
  cases hrun : operation state.1 with
  | ok value after => exact hdoes.of_ok hrun
  | error failure after => exact hdoes.of_error hrun

/-- The state after an operation, whether it went through or failed. -/
def endState (operation : EStateM Failure σ α) (state : σ) : σ :=
  match operation state with
  | .ok _ after => after
  | .error _ after => after

theorem endState_of_does {operation : EStateM Failure σ α} {state : σ} (holds : σ → Prop)
    (hdoes : Does operation state (fun _ after => holds after) fun _ after => holds after) :
    holds (endState operation state) := by
  unfold endState
  cases hrun : operation state with
  | ok value after => exact hdoes.of_ok hrun
  | error failure after => exact hdoes.of_error hrun

/-- The tags of a store that were not there before or had another value. -/
def Store.written (before after : Store) : List TagId :=
  ((List.range after.tags.size).map Id.mk).filter fun t =>
    ¬ before.tags.Holds t ∨ (after.tag t).value ≠ (before.tag t).value

theorem Store.mem_written {before after : Store} {t : TagId} :
    t ∈ written before after ↔ after.tags.Holds t ∧
      (¬ before.tags.Holds t ∨ (after.tag t).value ≠ (before.tag t).value) := by
  have hmade : (∃ n, n < after.tags.size ∧ Id.mk n = t) ↔ after.tags.Holds t := by
    constructor
    · rintro ⟨n, hn, rfl⟩
      exact hn
    · exact fun ht => ⟨t.index, ht, rfl⟩
  simp [written, hmade]

/-- An operation with a chronicle of the tags that were written, the latest last. -/
abbrev Chronicle := EStateM Failure (Memory × List TagId)

/-! ## Operations with their chronicle -/

namespace Chronicle

/-- An operation that sets no tag. -/
def ofOp (operation : Op α) : Chronicle α := fun state =>
  match operation state.1 with
  | .ok value after => .ok value (after, state.2)
  | .error failure after => .error failure (after, state.2)

/-- An operation that sets a tag. -/
def noting (operation : Op α) : Chronicle α := fun state =>
  match operation state.1 with
  | .ok value after => .ok value (after, state.2 ++ state.1.store.written after.store)
  | .error failure after => .error failure (after, state.2 ++ state.1.store.written after.store)

/-- The state and the chronicle after an operation, whether it went through or failed. -/
def ending (chronicle : Chronicle α) (state : Memory × List TagId) : Memory × List TagId :=
  match chronicle state with
  | .ok _ after => after
  | .error _ after => after

theorem ending_eq (chronicle : Chronicle α) (state : Memory × List TagId) :
    chronicle.ending state = endState chronicle state := by
  unfold ending endState
  cases chronicle state <;> rfl

end Chronicle

namespace Inventory

def chronicleTags (d : DeviceId) : List (String × Datum) → Chronicle Unit
  | [] => pure ()
  | (name, value) :: rest => do
    .noting (Tagging.set (some d) (.string name) value true)
    chronicleTags d rest

def chronicleDevice (inventory : Inventory) (c : CacheId) (spec : DeviceSpec) :
    Chronicle Unit := do
  let d ← .ofOp (Attachment.obtain c (some spec.name))
  .ofOp (Op.edit (·.setPriority d (inventory.priorityOf spec)))
  chronicleTags d spec.tags

def chronicleDevices (inventory : Inventory) (c : CacheId) : List DeviceSpec → Chronicle Unit
  | [] => pure ()
  | spec :: rest => do
    chronicleDevice inventory c spec
    chronicleDevices inventory c rest

/-- Brings all declared devices in, with a chronicle of their tags. -/
def chronicle (inventory : Inventory) (c : CacheId) : Chronicle Unit := do
  .ofOp <| Op.log .debug .probe
    ("Probing " ++ String.ofList (Text.decimal inventory.devices.length) ++ " inventory devices")
  chronicleDevices inventory c inventory.devices
  .ofOp do
    Op.edit (·.markProbed c)
    let cache ← Op.cache c
    Op.log .info .probe
      ("Probe complete: " ++ String.ofList (Text.decimal cache.devices.length) ++
        " devices in cache")

end Inventory

/-- Of the probers of the package only an inventory sets tags. -/
def Prober.chronicle (host : Host) (c : CacheId) : Prober → Chronicle Unit
  | .inventory declared => declared.chronicle c
  | prober => .ofOp (prober.probe host c)

namespace Lookup

/-- A search with a chronicle of what its prober writes; a look into the index writes nothing. -/
def chronicleSearch (host : Host) (c : CacheId) (name value : String) (prober : Option Prober)
    (verifier : Verifier) : Nat → Chronicle (Option DeviceId)
  | 0 => pure none
  | further + 1 => do
    match ← .ofOp (attempt host c name value verifier).toOp with
    | some d => return some d
    | none =>
      match prober with
      | none => return none
      | some prober =>
        if (← .ofOp (Op.cache c)).probed || further = 0 then return none
        else
          .ofOp <| Op.log .debug .resolve
            ("No match for " ++ pairText name value ++ ", probing all devices")
          prober.chronicle host c
          chronicleSearch host c name value (some prober) verifier further

def Quest.chronicle (host : Host) (quest : Quest) : Chronicle (Option DeviceId) := do
  let cache ← .ofOp (Op.cache quest.cache)
  .ofOp quest.announce
  chronicleSearch host quest.cache quest.name quest.value (quest.prober <|> cache.prober)
    ((quest.verifier <|> cache.verifier).getD .trusting) maxAttempts

end Lookup

/-- Performs an operation with a chronicle of the tags that it writes. -/
def Action.chronicle (host : Host) (action : Action) : Chronicle Unit :=
  match action with
  | .setTag d name value replace => .noting (Tagging.set d name value replace)
  | .probe prober c => prober.chronicle host c
  | action =>
    match action.quest? with
    | none => .ofOp (action.perform host)
    | some quest => do
      .ofOp action.note
      let found ← quest.chronicle host
      .ofOp (discard (Lookup.foundName found))

/-! ## The chronicle changes nothing else -/

/-- A chronicle is that of an operation: from the same memory both end alike. -/
def Tells (memoryOf : σ → Memory) (chronicle : EStateM Failure (Memory × τ) α)
    (operation : EStateM Failure σ α) : Prop :=
  ∀ s t, memoryOf s = t.1 →
    EndAlike (fun s t => memoryOf s = t.1) (operation s) (chronicle t)

namespace Tells

variable {memoryOf : σ → Memory} {chronicle : EStateM Failure (Memory × τ) α}
  {operation : EStateM Failure σ α}

theorem pure (value : α) :
    Tells memoryOf (Pure.pure value : EStateM Failure (Memory × τ) α) (Pure.pure value) :=
  fun _ _ hsame => ⟨rfl, hsame⟩

theorem bind {next : α → EStateM Failure (Memory × τ) β} {other : α → EStateM Failure σ β}
    (hfirst : Tells memoryOf chronicle operation)
    (hnext : ∀ value, Tells memoryOf (next value) (other value)) :
    Tells memoryOf (chronicle >>= next) (operation >>= other) :=
  fun s t hsame => (hfirst s t hsame).bind (fun value => hnext value) fun _ _ h => h

theorem carry (operation : Op α) :
    Tells id (operation.carry : EStateM Failure (Memory × τ) α) operation := by
  rintro memory ⟨_, kept⟩ rfl
  unfold Op.carry
  cases hrun : operation memory <;> simp [EndAlike, hrun]

theorem ofOp (operation : Op α) : Tells id (Chronicle.ofOp operation) operation := .carry operation

theorem noting (operation : Op α) : Tells id (Chronicle.noting operation) operation := by
  rintro memory ⟨_, written⟩ rfl
  unfold Chronicle.noting
  cases hrun : operation memory <;> simp [EndAlike, hrun]

/-- The record of a conversation is left out. -/
theorem dialogue {operation : Op α} (htells : Tells id chronicle operation) :
    Tells Prod.fst chronicle (Dialogue.ofOp operation) := by
  intro s t hsame
  have hends := htells s.1 t hsame
  unfold EndAlike at hends
  unfold Dialogue.ofOp
  split at hends
  · next hrun hother =>
    rw [hrun, hother]
    exact hends
  · next hrun hother =>
    rw [hrun, hother]
    exact hends
  · exact hends.elim

theorem record_bind (call : Call) {next : Unit → Dialogue α}
    (hnext : Tells Prod.fst chronicle (next ())) :
    Tells Prod.fst chronicle (Dialogue.record call >>= next) :=
  fun s t hsame => hnext (s.1, call :: s.2) t hsame

theorem toOp {dialogue : Dialogue α} (htells : Tells Prod.fst chronicle dialogue) :
    Tells id chronicle dialogue.toOp := by
  intro memory t hsame
  have hends := htells (memory, []) t hsame
  unfold EndAlike at hends
  unfold Dialogue.toOp
  split at hends
  · next hrun hother =>
    rw [hrun, hother]
    exact hends
  · next hrun hother =>
    rw [hrun, hother]
    exact hends
  · exact hends.elim

/-- Whether an operation goes through or fails, the memory is that of the operation itself. -/
theorem after {operation : Op α} (htells : Tells id chronicle operation) (memory : Memory)
    (kept : τ) : (endState chronicle (memory, kept)).1 = operation.after memory := by
  have hends := htells memory (memory, kept) rfl
  unfold EndAlike at hends
  unfold endState Op.after
  split at hends
  · next hrun hother =>
    rw [hrun, hother]
    exact hends.2.symm
  · next hrun hother =>
    rw [hrun, hother]
    exact hends.2.symm
  · exact hends.elim

end Tells

theorem Inventory.tells_chronicle (inventory : Inventory) (c : CacheId) :
    Tells id (inventory.chronicle c) (inventory.probe c) := by
  have htags : ∀ d tags, Tells id (chronicleTags d tags) (bringTags d tags) := by
    intro d tags
    induction tags with
    | nil => exact .pure ()
    | cons tag rest ih => exact (Tells.noting _).bind fun _ => ih
  have hdevices : ∀ specs, Tells id (inventory.chronicleDevices c specs)
      (inventory.bringDevices c specs) := by
    intro specs
    induction specs with
    | nil => exact .pure ()
    | cons spec rest ih =>
      have hdevice : Tells id (inventory.chronicleDevice c spec) (inventory.bringDevice c spec) :=
        (Tells.ofOp _).bind fun d => (Tells.ofOp _).bind fun _ => htags d spec.tags
      exact hdevice.bind fun _ => ih
  exact (Tells.ofOp _).bind fun _ => (hdevices _).bind fun _ => Tells.ofOp _

theorem Prober.tells_chronicle (host : Host) (c : CacheId) (prober : Prober) :
    Tells id (prober.chronicle host c) (prober.probe host c) := by
  cases prober with
  | inventory declared => exact declared.tells_chronicle c
  | _ => exact .ofOp _

namespace Lookup

variable {host : Host} {c : CacheId} {name value : String}

/-- A look into the index does not depend on what was said before. -/
theorem respects_attempt_record (verifier : Verifier) :
    Respects (fun s t => s.1 = t.1) (attempt host c name value verifier) := by
  have hsame : ∀ {β : Type} (operation : Op β), Respects (· = ·) operation := by
    rintro β operation memory _ rfl
    unfold EndAlike
    cases operation memory <;> exact ⟨rfl, rfl⟩
  unfold attempt
  refine (hsame _).ofOp.bind fun found => ?_
  cases found with
  | none => exact .pure none
  | some owner =>
    exact (Respects.record _).bind fun _ => (hsame _).ofOp.bind fun answer =>
      (Respects.record _).bind fun _ => (hsame _).ofOp

theorem tells_attempt (verifier : Verifier) :
    Tells Prod.fst
      ((attempt host c name value verifier).toOp.carry : EStateM Failure (Memory × τ) _)
      (attempt host c name value verifier) := by
  rintro s ⟨memory, kept⟩ hsame
  have hends : EndAlike (fun s t => s.1 = t.1) (attempt host c name value verifier s)
      (attempt host c name value verifier (memory, [])) :=
    respects_attempt_record verifier s (memory, []) hsame
  unfold Op.carry Dialogue.toOp
  cases hrun : attempt host c name value verifier s <;>
    cases hother : attempt host c name value verifier (memory, []) <;>
    rw [hrun, hother] at hends <;> exact hends

theorem tells_search (prober : Option Prober) (verifier : Verifier) (allowed : Nat) :
    Tells Prod.fst (chronicleSearch host c name value prober verifier allowed)
      (search host c name value prober verifier allowed) := by
  induction allowed with
  | zero => exact .pure none
  | succ further ih =>
    unfold chronicleSearch search
    refine (tells_attempt verifier).bind fun found => ?_
    cases found with
    | some d => exact .pure (some d)
    | none =>
      cases prober with
      | none => exact .pure none
      | some prober =>
        refine (Tells.ofOp _).dialogue.bind fun cache => ?_
        split
        · exact .pure none
        · refine (Tells.ofOp _).dialogue.bind fun _ => .record_bind _ ?_
          refine (prober.tells_chronicle host c).dialogue.bind fun _ => .record_bind _ ?_
          exact ih

theorem Quest.tells_chronicle (host : Host) (quest : Quest) :
    Tells Prod.fst (quest.chronicle host) (quest.dialogue host) :=
  (Tells.ofOp _).dialogue.bind fun _ => (Tells.ofOp _).dialogue.bind fun _ => tells_search _ _ _

end Lookup

theorem Action.tells_chronicle (host : Host) (action : Action) :
    Tells id (action.chronicle host) (action.perform host) := by
  have hlooking : ∀ quest, action.quest? = some quest →
      Tells id (do
        Chronicle.ofOp action.note
        let found ← quest.chronicle host
        Chronicle.ofOp (discard (Lookup.foundName found))) (action.perform host) := by
    intro quest hquest
    rw [← toOp_converse, converse, hquest]
    exact ((Tells.ofOp _).dialogue.bind fun _ => (quest.tells_chronicle host).bind fun found =>
      (Tells.ofOp _).dialogue).toOp
  unfold chronicle
  split
  · exact .noting _
  · exact Prober.tells_chronicle host _ _
  · split
    · exact .ofOp _
    · next quest hquest => exact hlooking quest hquest

theorem Action.ending_chronicle (host : Host) (action : Action) (memory : Memory)
    (written : List TagId) :
    ((action.chronicle host).ending (memory, written)).1 = (action.perform host).after memory := by
  rw [← (action.tells_chronicle host).after memory written, Chronicle.ending_eq]

/-! ## Runs -/

/-- A run that leads to a state, with the tags that were written on the way, the latest last. -/
inductive Chronicled : Memory → List TagId → Prop where
  | start : Chronicled {} []
  | step {memory : Memory} {written : List TagId} (host : Host) (supply : Supply)
      (action : Action) (hrun : Chronicled memory written)
      (hadmissible : action.Admissible memory.store) :
      Chronicled ((action.perform host).after { memory with supply })
        ((action.chronicle host).ending ({ memory with supply }, written)).2

/-- Every state that a run leads to has a chronicle. -/
theorem Reachable.exists_chronicled {memory : Memory} (hreachable : Reachable memory) :
    ∃ written, Chronicled memory written := by
  obtain ⟨arrivals, hrun⟩ := hreachable
  induction hrun with
  | start => exact ⟨[], .start⟩
  | step host supply action _ hadmissible ih =>
    obtain ⟨written, hchronicled⟩ := ih
    exact ⟨_, hchronicled.step host supply action hadmissible⟩

theorem Chronicled.reachable {memory : Memory} {written : List TagId}
    (hchronicled : Chronicled memory written) : Reachable memory := by
  induction hchronicled with
  | start => exact ⟨[], .start⟩
  | step host supply action _ hadmissible ih => exact ih.step host supply action hadmissible

/-- Performs operations one after the other, with a chronicle of the tags that they write. -/
def Action.chronicleAll (host : Host) (supply : Supply) :
    List Action → Memory × List TagId → Memory × List TagId
  | [], state => state
  | action :: rest, (memory, written) =>
    chronicleAll host supply rest ((action.chronicle host).ending ({ memory with supply }, written))

/-- A run goes on with any list of admissible operations. -/
theorem Chronicled.chronicleAll {memory : Memory} {written : List TagId}
    (hchronicled : Chronicled memory written) (host : Host) (supply : Supply)
    (actions : List Action) (hadmissible : Action.AllAdmissible host supply actions memory) :
    Chronicled (Action.chronicleAll host supply actions (memory, written)).1
      (Action.chronicleAll host supply actions (memory, written)).2 := by
  induction actions generalizing memory written with
  | nil => exact hchronicled
  | cons action rest ih =>
    obtain ⟨hfirst, hrest⟩ := hadmissible
    have hstep := hchronicled.step host supply action hfirst
    rw [← action.ending_chronicle host { memory with supply } written] at hrest hstep
    exact ih hstep hrest

end DeviceTags
