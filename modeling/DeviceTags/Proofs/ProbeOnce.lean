import DeviceTags.Proofs.Lookup.Conversation

/-!
# At most one completed run of the prober

From every state that a run leads to, the lookups in a cache complete at most one call of a prober,
whichever collaborators they are given and whatever happens in between, registrations that break off
included. The mark of the cache carries this: a completed call sets it, no operation takes it away,
and a lookup that finds it set calls no prober. A call that fails leaves the mark as it was, so that
the next lookup that finds nothing calls a prober again.
-/

namespace DeviceTags

open Store (SameMarks)

/-- One operation of a run, with the host and the memory that it finds. -/
structure Turn where
  host : Host
  supply : Supply := .unlimited
  action : Action

namespace Turn

def start (turn : Turn) (memory : Memory) : Memory := { memory with supply := turn.supply }

def after (turn : Turn) (memory : Memory) : Memory :=
  (turn.action.perform turn.host).after (turn.start memory)

/-- The calls of collaborators that a lookup makes in its turn, newest first. -/
def calls (turn : Turn) (memory : Memory) : List Call :=
  ((turn.action.converse turn.host).ending (turn.start memory, [])).2

/-- The cache that a turn looks into, if it is that of a lookup whose arguments pass. -/
def cache? (turn : Turn) : Option CacheId := turn.action.quest?.map (·.cache)

/-- How many calls of a prober a turn completes as a lookup in a cache. -/
def completed (turn : Turn) (c : CacheId) (memory : Memory) : Nat :=
  if turn.cache? = some c then (turn.calls memory).count .probed else 0

/-- How many calls of a prober the lookups in a cache complete, turn after turn. -/
def completions (c : CacheId) : List Turn → Memory → Nat
  | [], _ => 0
  | turn :: rest, memory => turn.completed c memory + completions c rest (turn.after memory)

/-- Every operation is admissible when its turn comes. -/
def AllAdmissible : List Turn → Memory → Prop
  | [], _ => True
  | turn :: rest, memory =>
    turn.action.Admissible memory.store ∧ AllAdmissible rest (turn.after memory)

/-- What a turn has to do with the mark of a cache. -/
structure Heeds (turn : Turn) (c : CacheId) (memory : Memory) : Prop where
  quiet : turn.cache? = some c → (memory.store.cache c).probed = true →
    .probing ∉ turn.calls memory
  lasting : (memory.store.cache c).probed = true →
    ((turn.after memory).store.cache c).probed = true
  /-- A call of a prober that is not completed has failed. -/
  failed : .probing ∈ turn.calls memory → .probed ∉ turn.calls memory →
    ((turn.after memory).store.cache c).probed = (memory.store.cache c).probed
  again : ∀ quest, turn.action.quest? = some quest → quest.cache = c →
    (memory.store.cache c).probed = false → (quest.proberIn memory.store).isSome →
    turn.action.Misses turn.host quest (turn.start memory) → .probing ∈ turn.calls memory

end Turn

/-! ## One turn -/

section Turn

variable {turn : Turn} {c : CacheId} {memory : Memory}

theorem Reachable.after (hreachable : Reachable memory)
    (hadmissible : turn.action.Admissible memory.store) : Reachable (turn.after memory) :=
  hreachable.step turn.host turn.supply turn.action hadmissible

theorem Reachable.sound (hreachable : Reachable memory) : memory.store.Sound := by
  obtain ⟨arrivals, hrun⟩ := hreachable
  exact hrun.sound.1

theorem Reachable.packaged (hreachable : Reachable memory) : memory.store.Packaged := by
  obtain ⟨arrivals, hrun⟩ := hreachable
  exact hrun.sound.2

theorem KeepsMarks.after {α : Type} {operation : Op α} (hkeeps : KeepsMarks operation)
    (memory : Memory) : memory.store.SameMarks (operation.after memory).store :=
  Does.after (fun after => memory.store.SameMarks after.store) (hkeeps memory)

theorem KeepsMarks.of_unmoved {α : Type} {operation : Op α}
    (hunmoved : ∀ memory, Moves (fun s t => t.store = s.store) operation memory) :
    KeepsMarks operation := by
  intro memory
  have hsame : ∀ after : Memory, after.store = memory.store → memory.store.SameMarks after.store :=
    fun after hstore => hstore ▸ .refl _
  exact Does.mono (hunmoved memory) (fun _ => hsame) fun _ => hsame

/-- No mark is taken away, and no cache is given a collaborator that is not packaged. -/
structure Store.KeepsProbed (before after : Store) : Prop where
  probed : ∀ c, (before.cache c).probed = true → (after.cache c).probed = true
  packaged : before.Packaged → after.Packaged

theorem Store.SameMarks.keepsProbed {before after : Store} (hsame : before.SameMarks after) :
    before.KeepsProbed after :=
  ⟨fun c hprobed => (hsame.probed c).trans hprobed, hsame.packaged⟩

theorem Store.SameMarks.keepsProbed_markProbed {before brought : Store}
    (hsame : before.SameMarks brought) (k : CacheId) :
    before.KeepsProbed (brought.markProbed k) where
  probed c hprobed := Store.probed_markProbed k ((hsame.probed c).trans hprobed)
  packaged hpackaged := (hsame.packaged hpackaged).of_same sameCollaborators_markProbed

/-- No operation takes a mark away. -/
theorem Action.keepsProbed (host : Host) {action : Action} (hquest : action.quest? = none)
    (hadmissible : action.Admissible memory.store) :
    memory.store.KeepsProbed ((action.perform host).after memory).store := by
  have hkept : KeepsMarks (action.perform host) →
      memory.store.KeepsProbed ((action.perform host).after memory).store :=
    fun hkeeps => (hkeeps.after memory).keepsProbed
  cases action with
  | newCache prober verifier =>
    refine hkept (.discard (.bind (.look _) fun _ => .bind (.edit fun _ => ?_) fun _ => .pure _))
    exact Store.sameMarks_addCache hadmissible.1 hadmissible.2
  | newDevice name priority flags => exact hkept (.discard (keepsMarks_newDevice _ _ _))
  | findDevice k name => exact hkept (.discard (Attachment.keepsMarks_find k name))
  | obtainDevice k name => exact hkept (.discard (Attachment.keepsMarks_obtain k name))
  | addDevice k d => exact hkept (Attachment.keepsMarks_add k d)
  | removeDevice k d => exact hkept (Attachment.keepsMarks_remove k d)
  | setTag d name value replace => exact hkept (Tagging.keepsMarks_set d name value replace)
  | setPriority d priority => exact hkept (keepsMarks_setPriority d priority)
  | clearChanged k => exact hkept (.edit fun _ => Store.sameMarks_clearChanged k)
  | markChanged k => exact hkept (.edit fun _ => Store.sameMarks_markChanged k)
  | markProbed k => exact (Store.SameMarks.refl memory.store).keepsProbed_markProbed k
  | probe prober k =>
    refine Does.after (fun after => memory.store.KeepsProbed after.store) ?_
    refine (hadmissible.1.does_probe host k memory).mono (fun _ after hafter => ?_) ?_
    · obtain ⟨brought, hbrought, hmarked⟩ := hafter
      rw [hmarked]
      exact hbrought.keepsProbed_markProbed k
    · exact fun _ after hafter => hafter.keepsProbed
  | verify verifier k d => exact hkept (.discard (hadmissible.1.keepsMarks host k (some d)))
  | find k name value prober verifier =>
    exact hkept (.discard (.of_unmoved fun _ => Action.unmoved_find hquest))
  | deviceName k token value =>
    exact hkept (.discard (.of_unmoved fun _ => Action.unmoved_deviceName hquest))

theorem Turn.keepsProbed (hquest : turn.action.quest? = none)
    (hadmissible : turn.action.Admissible memory.store) :
    memory.store.KeepsProbed (turn.after memory).store := by
  have hstart : turn.action.Admissible (turn.start memory).store := hadmissible
  exact Action.keepsProbed turn.host hquest hstart

theorem Dialogue.ending_of_does {α : Type} {dialogue : Dialogue α} {state : Memory × List Call}
    (holds : Memory × List Call → Prop)
    (hdoes : Does dialogue state (fun _ after => holds after) fun _ after => holds after) :
    holds (dialogue.ending state) := by
  unfold Dialogue.ending
  cases hrun : dialogue state with
  | ok value after => exact hdoes.of_ok hrun
  | error failure after => exact hdoes.of_error hrun

theorem Turn.after_eq (turn : Turn) (memory : Memory) : turn.after memory =
    ((turn.action.converse turn.host).ending (turn.start memory, [])).1 := by
  rw [← Dialogue.after_toOp, Action.toOp_converse]
  rfl

/-- Only lookups talk. -/
theorem Turn.calls_of_no_quest (hquest : turn.action.quest? = none) : turn.calls memory = [] := by
  unfold Turn.calls Action.converse
  rw [hquest]
  refine Dialogue.ending_of_does (fun after => after.2 = []) (.ofOp ?_)
  unfold Does
  split <;> rfl

theorem Turn.accounts {quest : Lookup.Quest} (hquest : turn.action.quest? = some quest)
    (hadmissible : turn.action.Admissible memory.store) (hpackaged : memory.store.Packaged) :
    Accounts quest.cache (turn.start memory, []) (turn.after memory, turn.calls memory) := by
  have hfits : quest.Fits (turn.start memory).store :=
    Action.fits_quest hquest hadmissible hpackaged
  have haccounts : Moves (Accounts quest.cache) (turn.action.converse turn.host)
      (turn.start memory, []) := Action.accounts_converse hquest hfits []
  rw [Turn.after_eq]
  exact Dialogue.ending_of_does (Accounts quest.cache (turn.start memory, [])) haccounts

theorem Turn.heeds (turn : Turn) (c : CacheId)
    (hadmissible : turn.action.Admissible memory.store) (hpackaged : memory.store.Packaged) :
    turn.Heeds c memory := by
  cases hquest : turn.action.quest? with
  | none =>
    have hsilent : turn.calls memory = [] := Turn.calls_of_no_quest hquest
    constructor
    case quiet => simp [hsilent]
    case lasting =>
      intro hprobed
      exact (Turn.keepsProbed hquest hadmissible).probed c hprobed
    case failed => simp [hsilent]
    case again =>
      intro quest hfound
      rw [hquest] at hfound
      cases hfound
  | some quest =>
    have haccounts := Turn.accounts hquest hadmissible hpackaged
    constructor
    case quiet =>
      intro hcache hprobed
      rw [Turn.cache?, hquest, Option.map_some, Option.some.injEq] at hcache
      subst hcache
      exact List.count_eq_zero.mp (haccounts.quiet hprobed)
    case lasting =>
      intro hprobed
      by_cases hc : c = quest.cache
      · subst hc
        exact haccounts.marked hprobed
      · exact (haccounts.elsewhere c hc).trans hprobed
    case failed =>
      intro _ hfailed
      by_cases hc : c = quest.cache
      · subst hc
        exact haccounts.same (List.count_eq_zero.mpr hfailed)
      · exact haccounts.elsewhere c hc
    case again =>
      intro found hfound hc hunprobed hprober hmiss
      rw [hquest] at hfound
      cases hfound
      subst hc
      have hfits : quest.Fits (turn.start memory).store :=
        Action.fits_quest hquest hadmissible hpackaged
      exact Dialogue.ending_of_does (fun after => .probing ∈ after.2)
        (Action.does_converse_of_miss hquest hfits hprober hunprobed hmiss)

theorem Turn.packaged_after (turn : Turn) (hadmissible : turn.action.Admissible memory.store)
    (hpackaged : memory.store.Packaged) : (turn.after memory).store.Packaged := by
  cases hquest : turn.action.quest? with
  | none => exact (Turn.keepsProbed hquest hadmissible).packaged hpackaged
  | some quest => exact (Turn.accounts hquest hadmissible hpackaged).packaged hpackaged

/-- A call that a lookup completes in a cache uses up the mark of the cache. -/
theorem Turn.completed_le (turn : Turn) (c : CacheId)
    (hadmissible : turn.action.Admissible memory.store) (hpackaged : memory.store.Packaged) :
    (memory.store.cache c).probed.toNat + turn.completed c memory ≤
      ((turn.after memory).store.cache c).probed.toNat := by
  unfold Turn.completed
  split
  · next hcache =>
    obtain ⟨quest, hquest, rfl⟩ := Option.map_eq_some_iff.mp hcache
    have hbalanced := (Turn.accounts hquest hadmissible hpackaged).balanced
    exact Nat.le_of_eq hbalanced.symm
  · have hlasting := (turn.heeds c hadmissible hpackaged).lasting
    cases hprobed : (memory.store.cache c).probed with
    | true =>
      rw [hlasting hprobed]
      exact Nat.le_refl _
    | false => exact Nat.zero_le _

end Turn

/-! ## Whole runs -/

/-- The mark of a cache and the completed calls of a prober come to one at most. -/
theorem Turn.completions_le (c : CacheId) (turns : List Turn) {memory : Memory}
    (hpackaged : memory.store.Packaged) (hadmissible : Turn.AllAdmissible turns memory) :
    (memory.store.cache c).probed.toNat + Turn.completions c turns memory ≤ 1 := by
  induction turns generalizing memory with
  | nil => exact Bool.toNat_le _
  | cons turn rest ih =>
    obtain ⟨hfirst, hrest⟩ := hadmissible
    have hturn := turn.completed_le c hfirst hpackaged
    have hlater := ih (turn.packaged_after hfirst hpackaged) hrest
    rw [Turn.completions]
    omega

/-- From every state that a run leads to, whatever comes next, the lookups in a cache complete one
call of a prober at most; each operation heeds the mark of the cache; and a prober that fails leaves
the marks of all caches as they were. -/
theorem lookups_probe_once {memory : Memory} (hreachable : Reachable memory) (c : CacheId) :
    (∀ turns, Turn.AllAdmissible turns memory → Turn.completions c turns memory ≤ 1) ∧
      (∀ turn : Turn, turn.action.Admissible memory.store → turn.Heeds c memory) ∧
      ∀ (host : Host) (prober : Prober) (before after : Memory) (failure : Failure),
        prober.IsPackaged → prober.probe host c before = .error failure after →
          ∀ k, (after.store.cache k).probed = (before.store.cache k).probed := by
  refine ⟨fun turns hturns => ?_, fun turn hturn => ?_, ?_⟩
  · have hle := Turn.completions_le c turns hreachable.packaged hturns
    omega
  · exact turn.heeds c hturn hreachable.packaged
  · intro host prober before after failure hpackaged hfail k
    exact ((hpackaged.does_probe host c before).of_error hfail).probed k

/-- A cache whose inventory has a device without a name, which no prober can bring in. -/
def Turn.opening : Turn where
  host := .bare
  action := .newCache (some (.inventory { devices := [{ name := "" }] })) none

/-- A lookup of a device that nothing has brought in, with or without a prober of its own. -/
def Turn.lookup (prober : Option Prober) : Turn where
  host := .bare
  action := .find (some ⟨0⟩) (some "UUID") (some "1234") prober none

/-- A prober that brings in the device that is looked for. -/
def rescue : Prober :=
  .inventory { devices := [{ name := "/dev/sdb1", tags := [("UUID", .string "1234")] }] }

/-- The first lookup fails with its prober and leaves the cache unmarked. The next one that finds
nothing calls another prober, and no call but that one is completed. -/
theorem lookups_probe_again :
    (Turn.lookup none).calls (Turn.opening.after {}) = [.probing] ∧
      (((Turn.lookup none).after (Turn.opening.after {})).store.cache ⟨0⟩).probed = false ∧
      .probing ∈ (Turn.lookup (some rescue)).calls
        ((Turn.lookup none).after (Turn.opening.after {})) ∧
      Turn.completions ⟨0⟩ [Turn.opening, .lookup none, ⟨.bare, .unlimited, .clearChanged ⟨0⟩⟩,
        .lookup (some rescue), .lookup none] {} = 1 := by
  have hstart : Reachable {} := ⟨[], .start⟩
  have hopening : Turn.opening.action.Admissible ({} : Memory).store := by
    refine ⟨fun p hp => ?_, nofun⟩
    cases hp
    trivial
  have hlookup : ∀ (memory : Memory) (prober : Option Prober), memory.store.caches.Holds ⟨0⟩ →
      (∀ p ∈ prober, p.IsPackaged) → (Turn.lookup prober).action.Admissible memory.store := by
    intro memory prober hheld hprober
    refine ⟨fun c hc => ?_, hprober, nofun⟩
    cases hc
    exact hheld
  have hrescue : ∀ p ∈ some rescue, p.IsPackaged := by
    intro p hp
    cases hp
    trivial
  have hopened : Reachable (Turn.opening.after {}) := hstart.after hopening
  have hunlucky := hlookup (Turn.opening.after {}) none (by decide +kernel) nofun
  have hcalls : (Turn.lookup none).calls (Turn.opening.after {}) = [.probing] := by decide +kernel
  have hunmarked :
      (((Turn.lookup none).after (Turn.opening.after {})).store.cache ⟨0⟩).probed = false := by
    obtain ⟨-, hheeds, -⟩ := lookups_probe_once hopened ⟨0⟩
    rw [(hheeds _ hunlucky).failed (by simp [hcalls]) (by simp [hcalls])]
    decide +kernel
  refine ⟨hcalls, hunmarked, ?_, ?_⟩
  · obtain ⟨-, hheeds, -⟩ := lookups_probe_once (hopened.after hunlucky) ⟨0⟩
    have hheeded := hheeds (.lookup (some rescue)) (hlookup _ _ (by decide +kernel) hrescue)
    refine hheeded.again ⟨⟨0⟩, "UUID", "1234", some rescue, none⟩ rfl rfl hunmarked rfl ?_
    exact ⟨_, attempt_empty (by decide +kernel) _ _⟩
  · refine Nat.le_antisymm ((lookups_probe_once hstart ⟨0⟩).1 _ ?_) (by decide +kernel)
    refine ⟨hopening, hunlucky, ?_, hlookup _ _ ?_ hrescue, hlookup _ _ ?_ nofun, trivial⟩
    all_goals
      change Table.Holds _ _
      decide +kernel

end DeviceTags
