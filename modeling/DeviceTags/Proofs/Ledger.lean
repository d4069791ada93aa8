import DeviceTags.Proofs.Chronicle
import DeviceTags.Proofs.ProbeOnce

/-!
# Which calls went through

An inventory sets tags and adds devices one by one, and a lookup may bring an inventory in on its way.
What became of each of these calls does not show in the state at the end, since a device may have left
again in between. Here the operations of a run are performed with a ledger. Every call that sets a tag
or adds a device is entered, with the store before and after it, if it goes through; calls that fail
are not. The ledger changes nothing else, so that every state that a run leads to has one, if no
registration breaks off on the way.
-/

namespace DeviceTags

open Lookup (Quest)

variable {σ τ α β : Type}

/-- A call that set a tag of a device or added the device to a cache and went through. -/
structure Deed where
  device : DeviceId
  before : Store
  after : Store

/-- An operation with a ledger of the calls that went through, the latest last. -/
abbrev Ledger := EStateM Failure (Memory × List Deed)

/-! ## Operations with their ledger -/

/-- A call on a device, which is entered if it goes through. -/
def Ledger.entering (d : Option DeviceId) (call : Op α) : Ledger α := fun state =>
  match call state.1 with
  | .ok value after =>
    .ok value (after, state.2 ++ d.toList.map fun e => ⟨e, state.1.store, after.store⟩)
  | .error failure after => .error failure (after, state.2)

theorem Does.entered {d : Option DeviceId} {call : Op α} {state : Memory × List Deed}
    {done : α → Memory × List Deed → Prop} {failed : Failure → Memory × List Deed → Prop}
    (hdoes : Does call state.1
      (fun value after =>
        done value (after, state.2 ++ d.toList.map fun e => ⟨e, state.1.store, after.store⟩))
      fun failure after => failed failure (after, state.2)) :
    Does (Ledger.entering d call) state done failed := by
  unfold Does Ledger.entering
  cases hrun : call state.1 with
  | ok value after => exact hdoes.of_ok hrun
  | error failure after => exact hdoes.of_error hrun

def Attachment.ledgerObtain (c : CacheId) (name : Option String) : Ledger DeviceId := do
  let name ← (Tagging.checked (requireDeviceName name)).carry
  match ← (Op.look fun store => named? store c name).carry with
  | some d => return d
  | none =>
    let d ← (Op.newDevice { name }).carry
    .entering (some d) (add c (some d))
    return d

namespace Inventory

def ledgerTags (d : DeviceId) : List (String × Datum) → Ledger Unit
  | [] => pure ()
  | (name, value) :: rest => do
    .entering (some d) (Tagging.set (some d) (.string name) value true)
    ledgerTags d rest

def ledgerDevice (inventory : Inventory) (c : CacheId) (spec : DeviceSpec) : Ledger Unit := do
  let d ← Attachment.ledgerObtain c (some spec.name)
  (Op.edit (·.setPriority d (inventory.priorityOf spec))).carry
  ledgerTags d spec.tags

def ledgerDevices (inventory : Inventory) (c : CacheId) : List DeviceSpec → Ledger Unit
  | [] => pure ()
  | spec :: rest => do
    ledgerDevice inventory c spec
    ledgerDevices inventory c rest

/-- What an inventory does when all its devices are there. -/
def conclude (c : CacheId) : Op Unit := do
  Op.edit (·.markProbed c)
  let cache ← Op.cache c
  Op.log .info .probe
    ("Probe complete: " ++ String.ofList (Text.decimal cache.devices.length) ++
      " devices in cache")

def ledger (inventory : Inventory) (c : CacheId) : Ledger Unit := do
  Op.carry <| Op.log .debug .probe
    ("Probing " ++ String.ofList (Text.decimal inventory.devices.length) ++ " inventory devices")
  ledgerDevices inventory c inventory.devices
  (conclude c).carry

end Inventory

/-- Of the probers of the package only an inventory sets tags or adds devices. -/
def Prober.ledger (host : Host) (c : CacheId) : Prober → Ledger Unit
  | .inventory declared => declared.ledger c
  | prober => (prober.probe host c).carry

namespace Lookup

def ledgerSearch (host : Host) (c : CacheId) (name value : String) (prober : Option Prober)
    (verifier : Verifier) : Nat → Ledger (Option DeviceId)
  | 0 => pure none
  | further + 1 => do
    match ← (attempt host c name value verifier).toOp.carry with
    | some d => return some d
    | none =>
      match prober with
      | none => return none
      | some prober =>
        if (← (Op.cache c).carry).probed || further = 0 then return none
        else
          Op.carry <| Op.log .debug .resolve
            ("No match for " ++ pairText name value ++ ", probing all devices")
          prober.ledger host c
          ledgerSearch host c name value (some prober) verifier further

def Quest.ledger (host : Host) (quest : Quest) : Ledger (Option DeviceId) := do
  let cache ← (Op.cache quest.cache).carry
  quest.announce.carry
  ledgerSearch host quest.cache quest.name quest.value (quest.prober <|> cache.prober)
    ((quest.verifier <|> cache.verifier).getD .trusting) maxAttempts

end Lookup

/-- Performs an operation with a ledger of the calls that go through. -/
def Action.ledger (host : Host) (action : Action) : Ledger Unit :=
  match action with
  | .setTag d name value replace => .entering d (Tagging.set d name value replace)
  | .addDevice c d => .entering d (Attachment.add c d)
  | .obtainDevice c name => discard (Attachment.ledgerObtain c name)
  | .probe prober c => prober.ledger host c
  | action =>
    match action.quest? with
    | none => (action.perform host).carry
    | some quest => do
      action.note.carry
      let found ← quest.ledger host
      Op.carry (discard (Lookup.foundName found))

/-! ## The ledger changes nothing else -/

theorem Tells.entering (d : Option DeviceId) (call : Op α) :
    Tells id (Ledger.entering d call) call := by
  rintro memory ⟨_, deeds⟩ rfl
  unfold Ledger.entering
  cases hrun : call memory <;> simp [EndAlike, hrun]

theorem Attachment.tells_ledgerObtain (c : CacheId) (name : Option String) :
    Tells id (ledgerObtain c name) (obtain c name) := by
  refine (Tells.carry _).bind fun n => (Tells.carry _).bind fun found => ?_
  cases found with
  | some d => exact .pure d
  | none =>
    exact (Tells.carry _).bind fun d => (Tells.entering (some d) _).bind fun _ => .pure d

theorem Inventory.tells_ledger (inventory : Inventory) (c : CacheId) :
    Tells id (inventory.ledger c) (inventory.probe c) := by
  have htags : ∀ d tags, Tells id (ledgerTags d tags) (bringTags d tags) := by
    intro d tags
    induction tags with
    | nil => exact .pure ()
    | cons tag rest ih => exact (Tells.entering _ _).bind fun _ => ih
  have hdevices : ∀ specs, Tells id (inventory.ledgerDevices c specs)
      (inventory.bringDevices c specs) := by
    intro specs
    induction specs with
    | nil => exact .pure ()
    | cons spec rest ih =>
      have hdevice : Tells id (inventory.ledgerDevice c spec) (inventory.bringDevice c spec) :=
        (Attachment.tells_ledgerObtain c _).bind fun d => (Tells.carry _).bind fun _ =>
          htags d spec.tags
      exact hdevice.bind fun _ => ih
  exact (Tells.carry _).bind fun _ => (hdevices _).bind fun _ => Tells.carry _

theorem Prober.tells_ledger (host : Host) (c : CacheId) (prober : Prober) :
    Tells id (prober.ledger host c) (prober.probe host c) := by
  cases prober with
  | inventory declared => exact declared.tells_ledger c
  | _ => exact .carry _

namespace Lookup

variable {host : Host} {c : CacheId} {name value : String}

theorem tells_ledgerSearch (prober : Option Prober) (verifier : Verifier) (allowed : Nat) :
    Tells Prod.fst (ledgerSearch host c name value prober verifier allowed)
      (search host c name value prober verifier allowed) := by
  induction allowed with
  | zero => exact .pure none
  | succ further ih =>
    unfold ledgerSearch search
    refine (tells_attempt verifier).bind fun found => ?_
    cases found with
    | some d => exact .pure (some d)
    | none =>
      cases prober with
      | none => exact .pure none
      | some prober =>
        refine (Tells.carry _).dialogue.bind fun cache => ?_
        split
        · exact .pure none
        · refine (Tells.carry _).dialogue.bind fun _ => .record_bind _ ?_
          refine (prober.tells_ledger host c).dialogue.bind fun _ => .record_bind _ ?_
          exact ih

theorem Quest.tells_ledger (host : Host) (quest : Quest) :
    Tells Prod.fst (quest.ledger host) (quest.dialogue host) :=
  (Tells.carry _).dialogue.bind fun _ => (Tells.carry _).dialogue.bind fun _ =>
    tells_ledgerSearch _ _ _

end Lookup

theorem Action.tells_ledger (host : Host) (action : Action) :
    Tells id (action.ledger host) (action.perform host) := by
  have hlooking : ∀ quest, action.quest? = some quest →
      Tells id (do
        action.note.carry
        let found ← quest.ledger host
        Op.carry (discard (Lookup.foundName found)) : Ledger Unit) (action.perform host) := by
    intro quest hquest
    rw [← toOp_converse, converse, hquest]
    exact ((Tells.carry _).dialogue.bind fun _ => (quest.tells_ledger host).bind fun found =>
      (Tells.carry _).dialogue).toOp
  unfold ledger
  split
  · exact .entering _ _
  · exact .entering _ _
  · exact (Attachment.tells_ledgerObtain _ _).bind fun _ => .pure ()
  · exact Prober.tells_ledger host _ _
  · split
    · exact .carry _
    · next quest hquest => exact hlooking quest hquest

/-- What holds where an operation goes through or fails, but for a registration that breaks off, holds
after an operation that breaks none off. -/
theorem Tells.endState_of_unbroken {ledger : EStateM Failure (Memory × τ) α} {operation : Op α}
    {memory : Memory} {kept : τ}
    (htells : Tells id ledger operation) (hunbroken : operation.Unbroken memory)
    (holds : Memory × τ → Prop)
    (hdoes : Does ledger (memory, kept) (fun _ after => holds after)
      fun failure after => failure.kind ≠ .memory → holds after) :
    holds (endState ledger (memory, kept)) := by
  have hends := htells memory (memory, kept) rfl
  unfold EndAlike at hends
  unfold endState
  unfold Op.Unbroken Op.failure? at hunbroken
  split at hends
  · next hother =>
    rw [hother]
    exact hdoes.of_ok hother
  · next failure _ _ _ hrun hother =>
    rw [hother]
    rw [hrun] at hunbroken
    refine hdoes.of_error hother fun hkind => hunbroken ?_
    rw [Option.map_some, hends.1, hkind]
  · exact hends.elim

/-! ## Runs -/

/-- The calls that go through in a turn, the latest last. -/
def Turn.deeds (turn : Turn) (memory : Memory) : List Deed :=
  (endState (turn.action.ledger turn.host) (turn.start memory, [])).2

/-- No registration breaks off in the turn. -/
def Turn.Unbroken (turn : Turn) (memory : Memory) : Prop :=
  (turn.action.perform turn.host).Unbroken (turn.start memory)

instance (turn : Turn) (memory : Memory) : Decidable (turn.Unbroken memory) :=
  inferInstanceAs (Decidable (Op.Unbroken _ _))

/-- No registration breaks off in any of the turns. -/
def Turn.AllUnbroken : List Turn → Memory → Prop
  | [], _ => True
  | turn :: rest, memory => turn.Unbroken memory ∧ AllUnbroken rest (turn.after memory)

instance Turn.decidableAllUnbroken : ∀ turns memory, Decidable (Turn.AllUnbroken turns memory)
  | [], _ => inferInstanceAs (Decidable True)
  | turn :: rest, memory =>
    have := decidableAllUnbroken rest (turn.after memory)
    inferInstanceAs (Decidable (_ ∧ _))

theorem Turn.after_eq_endState (turn : Turn) (memory : Memory) (deeds : List Deed) :
    turn.after memory = (endState (turn.action.ledger turn.host) (turn.start memory, deeds)).1 :=
  ((turn.action.tells_ledger turn.host).after (turn.start memory) deeds).symm

/-- A run in which no registration breaks off, with the calls that went through on the way, the
latest last. -/
inductive Ledgered : Memory → List Deed → Prop where
  | start : Ledgered {} []
  | step {memory : Memory} {deeds : List Deed} (turn : Turn) (hrun : Ledgered memory deeds)
      (hadmissible : turn.action.Admissible memory.store) (hunbroken : turn.Unbroken memory) :
      Ledgered (turn.after memory) (deeds ++ turn.deeds memory)

variable {memory : Memory} {deeds : List Deed}

/-- Every state that such a run leads to has a ledger. -/
theorem Orderly.exists_ledgered (horderly : Orderly memory) : ∃ deeds, Ledgered memory deeds := by
  induction horderly with
  | start => exact ⟨[], .start⟩
  | step host supply action _ hadmissible hunbroken ih =>
    obtain ⟨deeds, hledgered⟩ := ih
    exact ⟨_, hledgered.step ⟨host, supply, action⟩ hadmissible hunbroken⟩

theorem Ledgered.orderly (hledgered : Ledgered memory deeds) : Orderly memory := by
  induction hledgered with
  | start => exact .start
  | step turn _ hadmissible hunbroken ih =>
    exact ih.step turn.host turn.supply turn.action hadmissible hunbroken

theorem Ledgered.reachable (hledgered : Ledgered memory deeds) : Reachable memory :=
  hledgered.orderly.reachable

/-- Takes one turn after the other, with a ledger of the calls that go through. -/
def Turn.ledgerAll : List Turn → Memory × List Deed → Memory × List Deed
  | [], state => state
  | turn :: rest, (memory, deeds) =>
    ledgerAll rest (turn.after memory, deeds ++ turn.deeds memory)

/-- A run goes on with any list of admissible turns. -/
theorem Ledgered.ledgerAll (hledgered : Ledgered memory deeds) (turns : List Turn)
    (hadmissible : Turn.AllAdmissible turns memory) (hunbroken : Turn.AllUnbroken turns memory) :
    Ledgered (Turn.ledgerAll turns (memory, deeds)).1 (Turn.ledgerAll turns (memory, deeds)).2 := by
  induction turns generalizing memory deeds with
  | nil => exact hledgered
  | cons turn rest ih =>
    exact ih (hledgered.step turn hadmissible.1 hunbroken.1) hadmissible.2 hunbroken.2

end DeviceTags
