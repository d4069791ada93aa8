import DeviceTags.Lookup

/-!
# What an operation does

`Does` says of one run of an operation what holds where it succeeds and what holds where it fails.
The rules below follow the way in which operations are put together; everything that is proved about
an operation is proved through them. The state is left open, so that the rules hold for operations
with and without a record of their conversation.
-/

namespace DeviceTags

variable {σ α β : Type}

/-- One run of an operation: what holds of the result and the state after success, and of the failure
and the state after failure. -/
def Does (operation : EStateM Failure σ α) (before : σ) (done : α → σ → Prop)
    (failed : Failure → σ → Prop) : Prop :=
  match operation before with
  | .ok value after => done value after
  | .error failure after => failed failure after

namespace Does

variable {operation : EStateM Failure σ α} {before : σ} {done done' : α → σ → Prop}
  {failed failed' : Failure → σ → Prop}

theorem of_error {failure : Failure} {after : σ} (hdoes : Does operation before done failed)
    (hrun : operation before = .error failure after) : failed failure after := by
  rw [Does, hrun] at hdoes
  exact hdoes

theorem of_ok {value : α} {after : σ} (hdoes : Does operation before done failed)
    (hrun : operation before = .ok value after) : done value after := by
  rw [Does, hrun] at hdoes
  exact hdoes

theorem and (hdoes : Does operation before done failed)
    (hother : Does operation before done' failed') :
    Does operation before (fun value after => done value after ∧ done' value after)
      fun failure after => failed failure after ∧ failed' failure after := by
  unfold Does at *
  split at hdoes
  · next hrun =>
    rw [hrun] at hother
    exact ⟨hdoes, hother⟩
  · next hrun =>
    rw [hrun] at hother
    exact ⟨hdoes, hother⟩

theorem exists_ok_of_not (hdoes : Does operation before done failed)
    (hnever : ∀ failure after, ¬ failed failure after) :
    ∃ value after, operation before = .ok value after ∧ done value after := by
  unfold Does at hdoes
  split at hdoes
  · next value after hrun => exact ⟨value, after, hrun, hdoes⟩
  · exact absurd hdoes (hnever _ _)

theorem exists_ok (hdoes : Does operation before done fun _ _ => False) :
    ∃ value after, operation before = .ok value after ∧ done value after :=
  hdoes.exists_ok_of_not fun _ _ => id

/-- Where an operation goes through, it runs as said. -/
theorem run (hdoes : Does operation before done failed) :
    Does operation before
      (fun value after => operation before = .ok value after ∧ done value after) failed := by
  unfold Does at *
  split at hdoes
  · next hrun => exact ⟨hrun, hdoes⟩
  · exact hdoes

theorem trivial (operation : EStateM Failure σ α) (before : σ) :
    Does operation before (fun _ _ => True) fun _ _ => True := by
  unfold Does
  split <;> exact True.intro

theorem mono (hdoes : Does operation before done failed)
    (hdone : ∀ value after, done value after → done' value after)
    (hfailed : ∀ failure after, failed failure after → failed' failure after) :
    Does operation before done' failed' := by
  unfold Does at *
  split at hdoes
  · exact hdone _ _ hdoes
  · exact hfailed _ _ hdoes

/-- What an operation does that cannot fail may be said with any condition on failures. -/
theorem weaken (hdoes : Does operation before done fun _ _ => False)
    (hdone : ∀ value after, done value after → done' value after) :
    Does operation before done' failed :=
  hdoes.mono hdone fun _ _ => False.elim

theorem pure {value : α} (hdone : done value before) :
    Does (Pure.pure value) before done failed := hdone

theorem throw {failure : Failure} (hfailed : failed failure before) :
    Does (MonadExcept.throw failure : EStateM Failure σ α) before done failed := hfailed

/-- The second part of an operation starts in whatever state the first part ends in. -/
theorem bind {next : α → EStateM Failure σ β} {done' : β → σ → Prop}
    (hfirst : Does operation before done failed')
    (hnext : ∀ value after, done value after → Does (next value) after done' failed)
    (hfailed : ∀ failure after, failed' failure after → failed failure after) :
    Does (operation >>= next) before done' failed := by
  change Does (EStateM.bind operation next) before done' failed
  unfold Does EStateM.bind
  cases hrun : operation before with
  | ok value after => exact hnext value after (hfirst.of_ok hrun)
  | error failure after => exact hfailed failure after (hfirst.of_error hrun)

/-- The second part runs only where the first part cannot fail. -/
theorem andThen {next : α → EStateM Failure σ β} {done' : β → σ → Prop}
    (hfirst : Does operation before done fun _ _ => False)
    (hnext : ∀ value after, done value after → Does (next value) after done' failed) :
    Does (operation >>= next) before done' failed :=
  hfirst.bind hnext fun _ _ => False.elim

theorem discard {done : σ → Prop}
    (hdoes : Does operation before (fun _ after => done after) failed) :
    Does (Functor.discard operation) before (fun _ after => done after) failed :=
  hdoes.bind (fun _ _ hdone => hdone) fun _ _ hfailed => hfailed

end Does

/-! ## Elementary operations -/

section Elementary

variable {memory : Memory} {done : α → Memory → Prop} {failed : Failure → Memory → Prop}

/-- The state after a change of the store; the supply and the log stay as they are. -/
def Memory.withStore (memory : Memory) (store : Store) : Memory := { memory with store := store }

@[simp] theorem Memory.store_withStore (memory : Memory) (store : Store) :
    (memory.withStore store).store = store := rfl

theorem Does.look_bind {γ : Type} {read : Store → γ} {next : γ → Op α}
    (hnext : Does (next (read memory.store)) memory done failed) :
    Does (Op.look read >>= next) memory done failed := hnext

theorem Does.edit_bind {change : Store → Store} {next : Unit → Op α}
    (hnext : Does (next ()) (memory.withStore (change memory.store)) done failed) :
    Does (Op.edit change >>= next) memory done failed := hnext

theorem Does.edit {done : Unit → Memory → Prop} {change : Store → Store}
    (hdone : done () (memory.withStore (change memory.store))) :
    Does (Op.edit change) memory done failed := hdone

/-- A record of the log is seen by nothing that reads the store. -/
theorem does_log (level : Level) (source : Source) (message : String) :
    Does (Op.log level source message) memory (fun _ after => after.store = memory.store)
      fun _ _ => False := rfl

theorem does_newTag (record : Tag) :
    Does (Op.newTag record) memory
      (fun t after => t = memory.store.tags.next ∧
        after.store = { memory.store with tags := memory.store.tags.add record })
      fun _ _ => False := ⟨rfl, rfl⟩

theorem does_newHead (record : Head) :
    Does (Op.newHead record) memory
      (fun h after => h = memory.store.heads.next ∧
        after.store = { memory.store with heads := memory.store.heads.add record })
      fun _ _ => False := ⟨rfl, rfl⟩

theorem does_newDevice (record : Device) :
    Does (Op.newDevice record) memory
      (fun d after => d = memory.store.devices.next ∧
        after.store = { memory.store with devices := memory.store.devices.add record })
      fun _ _ => False := ⟨rfl, rfl⟩

/-- A request is granted unless none of its sort is left. -/
theorem does_request (what : Request) :
    Does (Op.request what) memory (fun _ after => after.store = memory.store)
      fun failure after => failure = .outOfMemory ∧ after.store = memory.store ∧
        memory.supply what = some 0 := by
  cases hsupply : memory.supply what with
  | none =>
    rw [Does, Op.request_of_unlimited hsupply]
  | some granted =>
    cases granted with
    | zero =>
      rw [Does, Op.request_of_spent hsupply]
      exact ⟨rfl, rfl, rfl⟩
    | succ granted =>
      rw [Does, Op.request, hsupply]

theorem Op.onShortage_of_ne {operation instead : Op α} {after : Memory} {failure : Failure}
    (hoperation : operation memory = .error failure after) (hne : failure ≠ .outOfMemory) :
    Op.onShortage operation instead memory = .error failure after := by
  rw [Op.onShortage, hoperation]
  split
  · next heq =>
    injection heq with hfailure
    exact absurd hfailure hne
  · rfl

/-- What stands in for an operation that runs out of memory starts where that operation stopped. -/
theorem Does.onShortage {operation instead : Op α} {failed' : Failure → Memory → Prop}
    (hoperation : Does operation memory done failed')
    (hinstead : ∀ after, failed' .outOfMemory after → Does instead after done failed)
    (hother : ∀ failure after, failure ≠ .outOfMemory → failed' failure after →
      failed failure after) :
    Does (Op.onShortage operation instead) memory done failed := by
  unfold Does at hoperation
  cases hrun : operation memory with
  | ok value after =>
    rw [hrun] at hoperation
    rw [Does, Op.onShortage_of_ok hrun]
    exact hoperation
  | error failure after =>
    rw [hrun] at hoperation
    by_cases hshort : failure = .outOfMemory
    · subst hshort
      rw [Does, Op.onShortage_of_shortage hrun]
      exact hinstead after hoperation
    · rw [Does, Op.onShortage_of_ne hrun hshort]
      exact hother failure after hshort hoperation

end Elementary

/-! ## Conversations -/

section Dialogue

variable {before : Memory} {calls : List Call} {done : α → Memory × List Call → Prop}
  {failed : Failure → Memory × List Call → Prop}

/-- An operation without a conversation adds nothing to the record. -/
theorem Does.ofOp {operation : Op α}
    (hdoes : Does operation before (fun value after => done value (after, calls))
      fun failure after => failed failure (after, calls)) :
    Does (Dialogue.ofOp operation) (before, calls) done failed := by
  unfold Does Dialogue.ofOp
  cases hrun : operation before with
  | ok value after => exact hdoes.of_ok hrun
  | error failure after => exact hdoes.of_error hrun

theorem Does.ofOp_bind {operation : Op β} {next : β → Dialogue α}
    (hdoes : Does operation before
      (fun value after => Does (next value) (after, calls) done failed)
      fun failure after => failed failure (after, calls)) :
    Does (Dialogue.ofOp operation >>= next) (before, calls) done failed :=
  have hfirst : Does (Dialogue.ofOp operation) (before, calls)
      (fun value after => Does (next value) after done failed) failed := hdoes.ofOp
  hfirst.bind (fun _ _ hnext => hnext) fun _ _ hfailed => hfailed

theorem Does.ofLook_bind {γ : Type} {read : Store → γ} {next : γ → Dialogue α}
    (hnext : Does (next (read before.store)) (before, calls) done failed) :
    Does (Dialogue.ofOp (Op.look read) >>= next) (before, calls) done failed := hnext

theorem Does.record_bind {call : Call} {next : Unit → Dialogue α}
    (hnext : Does (next ()) (before, call :: calls) done failed) :
    Does (Dialogue.record call >>= next) (before, calls) done failed := hnext

end Dialogue

end DeviceTags
