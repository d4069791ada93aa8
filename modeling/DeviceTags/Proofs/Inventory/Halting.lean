import DeviceTags.Proofs.Agreement
import DeviceTags.Proofs.Inventory.Pass
import DeviceTags.Proofs.Lookup.Conversation
import DeviceTags.Proofs.Supply

/-!
# A pass that stops on the way

Bringing declared devices in stops where a declaration is refused: at a device without a name, or at a
tag without a name or with a value that is no text. What stands before that place was carried out by
then, and nothing behind it; the caches count as probed exactly if they did, and the two sides of the
index agree. A lookup that asked for the pass fails with it.
-/

namespace DeviceTags

open Inventory (bringTags)

/-! ## Loops that stop -/

section Loop

variable {α : Type} {step : α → Op Unit} (loop : List α → Op Unit)
  (hnil : loop [] = pure ()) (hcons : ∀ item rest, loop (item :: rest) = (do step item; loop rest))

include hnil hcons

end Loop

/-! ## Declarations that are refused -/

namespace Inventory

variable {inventory : Inventory} {c : CacheId} {d : DeviceId} {memory before after : Memory}
  {failure : Failure}

end Inventory

/-! ## Who asked for the pass -/

/-- How an operation comes to ask for a pass over an inventory: it is that pass, or a lookup whose
first look finds nothing in a cache that is not probed. -/
inductive Action.Begins (host : Host) (inventory : Inventory) (c : CacheId) (memory : Memory) :
    Action → Memory → Prop
  | asked : Begins host inventory c memory (.probe (.inventory inventory) c) memory
  | missed {action : Action} {quest : Lookup.Quest} {tried : Memory × List Call}
      (hquest : action.quest? = some quest) (hcache : quest.cache = c)
      (hprober : quest.proberIn memory.store = some (.inventory inventory))
      (hmiss : Lookup.attempt host c quest.name quest.value (quest.verifierIn memory.store)
        ((do action.note; quest.announce : Op Unit).after memory, []) = .ok none tried)
      (hunprobed : (tried.1.store.cache c).probed = false) :
      Begins host inventory c memory action
        ((Op.log .debug .resolve ("No match for " ++ Lookup.pairText quest.name quest.value ++
          ", probing all devices")).after tried.1)

namespace Action

open Lookup (Quest)

variable {host : Host} {inventory : Inventory} {c : CacheId} {action : Action}
  {memory begun after : Memory} {failure : Failure}

/-- Before a lookup looks into the index it has added to the log and to nothing else. -/
theorem exists_looking (action : Action) (quest : Quest) (memory : Memory) :
    ∃ noted, action.note memory = .ok () noted ∧ noted.store = memory.store ∧
      (do action.note; quest.announce : Op Unit).after memory = quest.announce.after noted := by
  obtain ⟨noted, ⟨hstore, -⟩, hnote⟩ := action.exists_note memory
  refine ⟨noted, hnote, hstore, ?_⟩
  unfold Op.after
  rw [Op.bind_of_ok hnote]

/-- A failure of the prober is the failure of the search that called it. -/
theorem search_of_failed (prober : Prober) {verifier : Verifier} {name value : String}
    {further : Nat} (hfurther : further ≠ 0) {state tried : Memory × List Call}
    (hmiss : Lookup.attempt host c name value verifier state = .ok none tried)
    (hunprobed : (tried.1.store.cache c).probed = false)
    (hfail : prober.probe host c ((Op.log .debug .resolve ("No match for " ++
      Lookup.pairText name value ++ ", probing all devices")).after tried.1) =
        .error failure after) :
    Does (Lookup.search host c name value (some prober) verifier (further + 1)) state
      (fun _ _ => False) fun failed ended => failed = failure ∧ ended.1 = after := by
  have hattempt : Does (Lookup.attempt host c name value verifier) state
      (fun found ended => found = none ∧ ended = tried) fun _ _ => False := by
    rw [Does, hmiss]
    exact ⟨rfl, rfl⟩
  unfold Lookup.search
  refine hattempt.andThen fun found ended hended => ?_
  obtain ⟨rfl, rfl⟩ := hended
  refine .ofLook_bind ?_
  rw [hunprobed, Bool.false_or, if_neg (by simpa using hfurther)]
  have hprobe : Does (prober.probe host c) ((Op.log .debug .resolve ("No match for " ++
      Lookup.pairText name value ++ ", probing all devices")).after ended.1)
      (fun _ _ => False) fun failed stopped => failed = failure ∧ stopped = after := by
    rw [Does, hfail]
    exact ⟨rfl, rfl⟩
  exact .ofOp_bind (.record_bind (.ofOp_bind (hprobe.mono (fun _ _ => False.elim)
    fun _ _ hstopped => hstopped)))

/-- An operation that asks for a pass fails as the pass fails, and in the same state. -/
theorem Begins.fails (hbegins : action.Begins host inventory c memory begun)
    (hfail : inventory.probe c begun = .error failure after) :
    action.perform host memory = .error failure after := by
  cases hbegins with
  | asked => exact hfail
  | @missed _ quest tried hquest hcache hprober hmiss hunprobed =>
    subst hcache
    obtain ⟨noted, hnote, hstore, hlooking⟩ := action.exists_looking quest memory
    rw [hlooking, ← hstore] at hmiss
    rw [← hstore] at hprober
    have hsearch := search_of_failed (.inventory inventory) Nat.one_ne_zero hmiss
      hunprobed hfail
    rw [← hprober] at hsearch
    have hdialogue : Does (quest.dialogue host) (noted, [])
        (fun _ _ => False) fun failed ended => failed = failure ∧ ended.1 = after := by
      unfold Quest.dialogue Lookup.dialogue
      exact .ofLook_bind hsearch
    have hconverse : Does (action.converse host) (memory, [])
        (fun _ _ => False) fun failed ended => failed = failure ∧ ended.1 = after := by
      unfold Does
      rw [converse_apply hquest hnote]
      exact Does.bind hdialogue (fun _ _ => False.elim) fun _ _ hfailed => hfailed
    rw [← toOp_converse, Dialogue.toOp]
    cases hrun : action.converse host (memory, []) with
    | ok _ ended => exact (Does.of_ok hconverse hrun).elim
    | error failed ended =>
      obtain ⟨rfl, rfl⟩ := Does.of_error hconverse hrun
      rfl

/-- When the pass begins, the store is sound and no mark has changed. -/
theorem Begins.ready (hbegins : action.Begins host inventory c memory begun)
    (hsound : memory.store.Sound) (hpackaged : memory.store.Packaged)
    (hadmissible : action.Admissible memory.store) :
    begun.store.Sound ∧ begun.store.caches.Holds c ∧ memory.store.SameMarks begun.store := by
  cases hbegins with
  | asked => exact ⟨hsound, hadmissible.2, .refl _⟩
  | @missed _ quest tried hquest hcache hprober hmiss hunprobed =>
    subst hcache
    have hfits : quest.Fits memory.store := fits_quest hquest hadmissible hpackaged
    obtain ⟨noted, -, hstore, hlooking⟩ := action.exists_looking quest memory
    have hstarted : (quest.announce.after noted).store = memory.store := hstore
    rw [← hstarted] at hsound
    have hadvances : Advances Dialogue.store (Lookup.attempt host quest.cache quest.name quest.value
        (quest.verifierIn memory.store)) (quest.announce.after noted, []) _ :=
      advances_attempt host quest.name quest.value hfits.verifier hsound
    have haside : Moves Aside (Lookup.attempt host quest.cache quest.name quest.value
        (quest.verifierIn memory.store)) (quest.announce.after noted, []) :=
      Lookup.aside_attempt hfits.verifier
    rw [hlooking] at hmiss
    have hsame := (Does.of_ok haside hmiss).same
    rw [hstarted] at hsame
    exact ⟨(Does.of_ok hadvances hmiss).1.sound, hsame.held _ hfits.held, hsame⟩

end Action

end DeviceTags
