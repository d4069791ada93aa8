import DeviceTags.Proofs.Marks
import DeviceTags.Proofs.Twin.Inquiry

/-!
# Lookups that talk

The operations of a run forget what a lookup and its collaborators said to each other. Here they are
performed with their conversation, which changes nothing else. What a lookup says about its cache
accounts for the mark of the cache: each run of the prober that is completed marks it, and once it
is marked the prober is not called.
-/

namespace DeviceTags

variable {α β : Type}

/-! ## Operations with their conversation -/

namespace Dialogue

/-- The state and the record after a conversation, whether it went through or failed. -/
def ending (dialogue : Dialogue α) (state : Memory × List Call) : Memory × List Call :=
  match dialogue state with
  | .ok _ after => after
  | .error _ after => after

theorem after_toOp (dialogue : Dialogue α) (memory : Memory) :
    dialogue.toOp.after memory = (dialogue.ending (memory, [])).1 := by
  unfold Op.after toOp ending
  cases dialogue (memory, []) <;> rfl

theorem toOp_ofOp (operation : Op α) : (ofOp operation).toOp = operation := by
  funext memory
  unfold toOp ofOp
  cases operation memory <;> rfl

/-- Only the parts of a conversation that are not recorded may stand apart from it. -/
theorem toOp_ofOp_bind (operation : Op α) (next : α → Dialogue β) :
    (ofOp operation >>= next).toOp = (do (next (← operation)).toOp) := by
  funext memory
  rw [Op.bind_apply]
  unfold toOp ofOp
  cases hrun : operation memory <;> simp [bind, EStateM.bind, hrun]

theorem toOp_bind_ofOp (dialogue : Dialogue α) (next : α → Op β) :
    (do ofOp (next (← dialogue))).toOp = (do next (← dialogue.toOp)) := by
  funext memory
  rw [Op.bind_apply]
  unfold toOp ofOp
  cases hrun : dialogue (memory, []) with
  | ok found state =>
    simp only [bind, EStateM.bind, hrun]
    cases next found state.1 <;> rfl
  | error failure state => simp [bind, EStateM.bind, hrun]

end Dialogue

/-- What a lookup is after once its arguments have passed: a pair in a cache. Collaborators that it
was given stand in for those of the cache. -/
structure Lookup.Quest where
  cache : CacheId
  name : String
  value : String
  prober : Option Prober := none
  verifier : Option Verifier := none

namespace Lookup.Quest

/-- The prober of a quest, if it has one. -/
def proberIn (quest : Quest) (store : Store) : Option Prober :=
  quest.prober <|> (store.cache quest.cache).prober

/-- The verifier of a quest. -/
def verifierIn (quest : Quest) (store : Store) : Verifier :=
  (quest.verifier <|> (store.cache quest.cache).verifier).getD .trusting

/-- What a quest leaves in the log before it looks into the index. -/
def announce (quest : Quest) : Op Unit :=
  Op.log .debug .resolve ("Looking for " ++ pairText quest.name quest.value ++ " in cache")

def dialogue (host : Host) (quest : Quest) : Dialogue (Option DeviceId) :=
  Lookup.dialogue host quest.cache quest.name quest.value quest.prober quest.verifier

/-- The cache of a quest exists, and its collaborators are packaged ones. -/
structure Fits (quest : Quest) (store : Store) : Prop where
  held : store.caches.Holds quest.cache
  prober : ∀ p ∈ quest.proberIn store, p.IsPackaged
  verifier : (quest.verifierIn store).IsPackaged

end Lookup.Quest

namespace Action

open Lookup (Quest foundName)

/-- What an operation looks up in the index, if it is a lookup and its arguments pass. -/
def quest? : Action → Option Quest
  | find c name value prober verifier =>
    match Lookup.requireArguments c name value with
    | .ok (c, name, value) => some { cache := c, name, value, prober, verifier }
    | .error _ => none
  | deviceName (some c) token value =>
    match (Inquiry.deviceName token value).aim with
    | .ok (.inr (name, value)) => some { cache := c, name, value }
    | _ => none
  | _ => none

/-- The record of the log that an operation leaves before it looks anything up. -/
def note : Action → Op Unit
  | deviceName _ token value => (Inquiry.deviceName token value).note
  | _ => pure ()

/-- Performs an operation, with a record of the conversation if it is a lookup. -/
def converse (host : Host) (action : Action) : Dialogue Unit :=
  match action.quest? with
  | none => Dialogue.ofOp (action.perform host)
  | some quest => do
    Dialogue.ofOp action.note
    let found ← quest.dialogue host
    Dialogue.ofOp (discard (foundName found))

theorem discard_foundName (found : Option DeviceId) : discard (foundName found) = pure () := by
  cases found <;> rfl

theorem discard_bind (operation : Op α) (next : α → Op β) :
    discard (operation >>= next) = (do discard (next (← operation))) := by
  funext memory
  change EStateM.bind (EStateM.bind operation next) (fun _ => pure ()) memory =
    EStateM.bind operation (fun value => EStateM.bind (next value) fun _ => pure ()) memory
  unfold EStateM.bind
  cases operation memory <;> rfl

theorem perform_find {host : Host} {c : Option CacheId} {name value : Option String}
    {prober : Option Prober} {verifier : Option Verifier} {quest : Quest}
    (hquest : (find c name value prober verifier).quest? = some quest) :
    Lookup.find host c name value prober verifier = (quest.dialogue host).toOp := by
  unfold quest? at hquest
  unfold Lookup.find
  dsimp only at hquest
  split at hquest
  · next hpass =>
    cases hquest
    rw [hpass]
    rfl
  · cases hquest

/-- A lookup for the device of a token leaves its note, checks its arguments and goes on. -/
theorem deviceName_eq (host : Host) (c : CacheId) (token value : Option String) :
    Lookup.deviceName host (some c) token value = (do
      (deviceName (some c) token value).note
      Inquiry.reach host c (← Tagging.checked (Inquiry.deviceName token value).aim)) :=
  Inquiry.answer_eq (.deviceName token value)

theorem perform_deviceName {host : Host} {c : Option CacheId} {token value : Option String}
    {quest : Quest} (hquest : (deviceName c token value).quest? = some quest) :
    Lookup.deviceName host c token value = (do
      (deviceName c token value).note
      foundName (← (quest.dialogue host).toOp)) := by
  unfold quest? at hquest
  cases c with
  | none => cases hquest
  | some c =>
    dsimp only at hquest
    split at hquest
    · next name value' haim =>
      cases hquest
      rw [deviceName_eq, haim]
      rfl
    · cases hquest

/-- The conversation changes nothing but its record. -/
theorem toOp_converse (host : Host) (action : Action) :
    (action.converse host).toOp = action.perform host := by
  unfold converse
  cases hquest : action.quest? with
  | none => exact Dialogue.toOp_ofOp _
  | some quest =>
    dsimp only
    rw [Dialogue.toOp_ofOp_bind]
    simp only [Dialogue.toOp_bind_ofOp, discard_foundName]
    cases action with
    | find c name value prober verifier =>
      rw [perform, perform_find hquest]
      rfl
    | deviceName c token value =>
      rw [perform, perform_deviceName hquest]
      simp only [discard_bind, discard_foundName]
    | _ => cases hquest

end Action

/-! ## What is said about a cache -/

/-- What was said between two states of a conversation about a cache accounts for its mark. -/
structure Accounts (c : CacheId) (before after : Memory × List Call) : Prop where
  held : ∀ k, before.1.store.caches.Holds k → after.1.store.caches.Holds k
  packaged : before.1.store.Packaged → after.1.store.Packaged
  recorded : before.2 <:+ after.2
  elsewhere : ∀ k, k ≠ c → (after.1.store.cache k).probed = (before.1.store.cache k).probed
  /-- The cache is marked as often as a run of the prober is completed, which is once at most. -/
  balanced : (after.1.store.cache c).probed.toNat + before.2.count .probed =
    (before.1.store.cache c).probed.toNat + after.2.count .probed
  quiet : (before.1.store.cache c).probed = true →
    after.2.count .probing = before.2.count .probing

namespace Accounts

variable {c : CacheId} {before middle after : Memory × List Call}

theorem marked (haccounts : Accounts c before after)
    (hprobed : (before.1.store.cache c).probed = true) :
    (after.1.store.cache c).probed = true := by
  have hbalanced := haccounts.balanced
  have hle := haccounts.recorded.sublist.count_le (a := Call.probed)
  rw [hprobed, Bool.toNat_true] at hbalanced
  cases hafter : (after.1.store.cache c).probed with
  | true => rfl
  | false =>
    rw [hafter, Bool.toNat_false] at hbalanced
    omega

/-- Without a completed call the mark is as it was. -/
theorem same (haccounts : Accounts c before after)
    (hcount : after.2.count .probed = before.2.count .probed) :
    (after.1.store.cache c).probed = (before.1.store.cache c).probed := by
  cases hbefore : (before.1.store.cache c).probed with
  | true => exact haccounts.marked hbefore
  | false =>
    have hbalanced := haccounts.balanced
    rw [hcount, hbefore, Nat.add_right_cancel_iff, Bool.toNat_false] at hbalanced
    exact Bool.toNat_eq_zero.mp hbalanced

theorem trans (hfirst : Accounts c before middle) (hsecond : Accounts c middle after) :
    Accounts c before after where
  held k hk := hsecond.held k (hfirst.held k hk)
  packaged hpackaged := hsecond.packaged (hfirst.packaged hpackaged)
  recorded := hfirst.recorded.trans hsecond.recorded
  elsewhere k hk := (hsecond.elsewhere k hk).trans (hfirst.elsewhere k hk)
  balanced := by
    have hfirst := hfirst.balanced
    have hsecond := hsecond.balanced
    omega
  quiet hprobed := (hsecond.quiet (hfirst.marked hprobed)).trans (hfirst.quiet hprobed)

instance : IsTrans (Memory × List Call) (Accounts c) := ⟨fun _ _ _ => trans⟩

/-- A call of the prober that is completed, in a cache that was not marked. -/
theorem completed {memory marked : Memory} {calls : List Call} {brought : Store}
    (hc : memory.store.caches.Holds c) (hunprobed : (memory.store.cache c).probed = false)
    (hbrought : memory.store.SameMarks brought) (hmarked : marked.store = brought.markProbed c) :
    Accounts c (memory, calls) (marked, .probed :: .probing :: calls) where
  held k hk := by
    rw [hmarked]
    exact (Table.holds_update _ _ _ _).mpr (hbrought.held k hk)
  packaged hpackaged := by
    rw [hmarked]
    exact (hbrought.packaged hpackaged).of_same sameCollaborators_markProbed
  recorded := ⟨[.probed, .probing], rfl⟩
  elsewhere k hk := by
    rw [hmarked, Store.markProbed, Store.cache_updateCache_of_ne brought hk, hbrought.probed]
  balanced := by
    rw [hmarked, Store.markProbed, Store.cache_updateCache_self brought (hbrought.held c hc),
      hunprobed, List.count_cons_self, List.count_cons_of_ne (by decide), Bool.toNat_true,
      Bool.toNat_false, Nat.zero_add, Nat.add_comm]
  quiet hprobed := by
    rw [hunprobed] at hprobed
    cases hprobed

/-- A call of the prober that fails, in a cache that was not marked. -/
theorem failed {memory after : Memory} {calls : List Call}
    (hunprobed : (memory.store.cache c).probed = false)
    (hsame : memory.store.SameMarks after.store) :
    Accounts c (memory, calls) (after, .probing :: calls) where
  held := hsame.held
  packaged := hsame.packaged
  recorded := ⟨[.probing], rfl⟩
  elsewhere k _ := hsame.probed k
  balanced := by rw [hsame.probed, List.count_cons_of_ne (by decide)]
  quiet hprobed := by
    rw [hunprobed] at hprobed
    cases hprobed

end Accounts

/-- What was said between two states is no call of a prober, and every mark is as it was. -/
structure Aside (before after : Memory × List Call) : Prop where
  same : before.1.store.SameMarks after.1.store
  recorded : before.2 <:+ after.2
  probing : after.2.count .probing = before.2.count .probing
  probed : after.2.count .probed = before.2.count .probed

namespace Aside

variable {before middle after : Memory × List Call}

theorem refl (state : Memory × List Call) : Aside state state :=
  ⟨.refl _, List.suffix_refl _, rfl, rfl⟩

theorem of_sameMarks {memory other : Memory} (hsame : memory.store.SameMarks other.store)
    (calls : List Call) : Aside (memory, calls) (other, calls) :=
  ⟨hsame, List.suffix_refl _, rfl, rfl⟩

theorem recording (call : Call) (memory : Memory) (calls : List Call) (hprobing : call ≠ .probing)
    (hprobed : call ≠ .probed) : Aside (memory, calls) (memory, call :: calls) :=
  ⟨.refl _, List.suffix_cons call calls, List.count_cons_of_ne hprobing,
    List.count_cons_of_ne hprobed⟩

theorem trans (hfirst : Aside before middle) (hsecond : Aside middle after) :
    Aside before after where
  same := hfirst.same.trans hsecond.same
  recorded := hfirst.recorded.trans hsecond.recorded
  probing := hsecond.probing.trans hfirst.probing
  probed := hsecond.probed.trans hfirst.probed

theorem accounts (haside : Aside before after) (c : CacheId) : Accounts c before after where
  held := haside.same.held
  packaged := haside.same.packaged
  recorded := haside.recorded
  elsewhere k _ := haside.same.probed k
  balanced := by rw [haside.same.probed, haside.probed]
  quiet _ := haside.probing

end Aside

/-- An operation leads from a state to a related one, whether it goes through or fails. -/
def Moves {σ : Type} (related : σ → σ → Prop) (operation : EStateM Failure σ α) (before : σ) :
    Prop :=
  Does operation before (fun _ after => related before after) fun _ after => related before after

section Moves

variable {σ : Type} {related related' : σ → σ → Prop} {operation : EStateM Failure σ α}
  {before middle : σ}

theorem Moves.mono (hmoves : Moves related operation before)
    (himp : ∀ after, related before after → related' before after) :
    Moves related' operation before :=
  Does.mono hmoves (fun _ after hafter => himp after hafter) fun _ after hafter => himp after hafter

/-- What was done before does not matter for what an operation leads to. -/
theorem Moves.after [IsTrans σ related] (hmoves : Moves related operation middle)
    (hbefore : related before middle) :
    Does operation middle (fun _ after => related before after)
      fun _ after => related before after :=
  Does.mono hmoves (fun _ after hafter => IsTrans.trans before middle after hbefore hafter)
    fun _ after hafter => IsTrans.trans before middle after hbefore hafter

theorem Moves.bind [IsTrans σ related] {next : α → EStateM Failure σ β}
    (hfirst : Moves related operation before)
    (hnext : ∀ value middle, related before middle → Moves related (next value) middle) :
    Moves related (operation >>= next) before :=
  Does.bind hfirst (fun value middle hmiddle => (hnext value middle hmiddle).after hmiddle)
    fun _ _ hfailed => hfailed

/-- What a conversation does to the state it does without its record, too. -/
theorem Moves.toOp {related : Memory → Memory → Prop} {dialogue : Dialogue α} {memory : Memory}
    (hmoves : Moves (fun s t => related s.1 t.1) dialogue (memory, [])) :
    Moves related dialogue.toOp memory := by
  unfold Moves Does at *
  unfold Dialogue.toOp
  split at hmoves
  · next hrun =>
    rw [hrun]
    exact hmoves
  · next hrun =>
    rw [hrun]
    exact hmoves

end Moves

/-! ## Lookups account for marks -/

namespace Lookup

variable {host : Host} {c : CacheId} {name value : String} {state : Memory × List Call}

theorem aside_ofOp {operation : Op α} (hkeeps : KeepsMarks operation) :
    Moves Aside (Dialogue.ofOp operation) state :=
  Does.ofOp ((hkeeps state.1).mono (fun _ _ hafter => .of_sameMarks hafter state.2)
    fun _ _ hafter => .of_sameMarks hafter state.2)

theorem unmoved_candidate (c : CacheId) (name value : String) (memory : Memory) :
    Does (candidate c name value) memory (fun _ after => after = memory)
      fun _ after => after = memory := by
  unfold candidate
  refine .look_bind ?_
  cases bestMatch memory.store c name value with
  | error failure => exact Does.throw rfl
  | ok found =>
    cases found with
    | none => exact .pure rfl
    | some t => exact .look_bind (.pure rfl)

theorem unmoved_nameOf (d : Option DeviceId) (memory : Memory) :
    Does (nameOf d) memory (fun _ after => after = memory) fun _ after => after = memory := by
  cases d with
  | none => exact Does.throw rfl
  | some d => exact .look_bind (.pure rfl)

/-- A look into the index moves the state by its verifier only: what the verifier keeps is kept, if
it is a matter of the store and of the calls of probers. -/
theorem attempt_keeps {keeps : Memory × List Call → Prop} {verifier : Verifier}
    (hunmoved : ∀ before after calls, after.store = before.store → keeps (before, calls) →
      keeps (after, calls))
    (hrecord : ∀ call memory calls, call ≠ .probing → call ≠ .probed → keeps (memory, calls) →
      keeps (memory, call :: calls))
    (hverify : ∀ d memory calls, keeps (memory, calls) → Does (verifier.verify host c d) memory
      (fun _ after => keeps (after, calls)) fun _ after => keeps (after, calls))
    (hstart : keeps state) :
    Does (attempt host c name value verifier) state (fun _ => keeps) fun _ => keeps := by
  obtain ⟨memory, calls⟩ := state
  have hlog : ∀ (message : String) (found : Option DeviceId) (before : Memory) (said : List Call),
      keeps (before, said) → Does (do
        Op.log .debug .resolve message
        return found) before (fun _ after => keeps (after, said)) fun _ after => keeps (after, said) :=
    fun _ _ before said hbefore => hunmoved before _ said rfl hbefore
  unfold attempt
  refine .ofOp_bind ((unmoved_candidate c name value memory).mono (fun found looked hlooked => ?_)
    fun _ looked hlooked => hlooked ▸ hstart)
  subst hlooked
  cases found with
  | none => exact .pure hstart
  | some owner =>
    have hasked := hrecord (.asking owner) looked calls nofun nofun hstart
    refine .record_bind (.ofOp_bind ((hverify owner looked _ hasked).mono
      (fun answer verified hverified => ?_) fun _ _ hfailed => hfailed))
    have hanswered := hrecord (.answer answer) verified _ nofun nofun hverified
    refine .record_bind (.ofOp ?_)
    cases answer with
    | none =>
      refine (unmoved_nameOf owner verified).bind (fun _ named hnamed => ?_)
        fun _ named hnamed => hnamed ▸ hanswered
      exact hlog _ none named _ (hnamed ▸ hanswered)
    | some d =>
      refine .look_bind (.look_bind ?_)
      split
      · exact hlog _ (some d) verified _ hanswered
      · exact hlog _ none verified _ hanswered

/-- A look into the index talks to the verifier only. -/
theorem aside_attempt {verifier : Verifier} (hverifier : verifier.IsPackaged) :
    Moves Aside (attempt host c name value verifier) state := by
  refine attempt_keeps (fun before after calls hstore haside => ?_)
    (fun call memory calls hprobing hprobed haside => ?_)
    (fun d memory calls haside => ?_) (.refl state)
  · exact haside.trans (.of_sameMarks (Store.sameMarks_of_caches (congrArg _ hstore)) calls)
  · exact haside.trans (.recording call memory calls hprobing hprobed)
  · exact (hverifier.keepsMarks host c d memory).mono
      (fun _ _ hafter => haside.trans (.of_sameMarks hafter calls))
      fun _ _ hafter => haside.trans (.of_sameMarks hafter calls)

/-- What goes on after a look without a result in a cache that is not marked. The prober is called,
and the cache is marked if the call is completed. -/
theorem does_probing (host : Host) {prober : Prober} (hprober : prober.IsPackaged)
    (hc : state.1.store.caches.Holds c) (hunprobed : (state.1.store.cache c).probed = false)
    (message : String) {next : Dialogue α}
    (hnext : ∀ noted : Memory × List Call, noted.1.store.caches.Holds c →
      Moves (Accounts c) next noted) :
    Does (do
        Dialogue.ofOp (Op.log .debug .resolve message)
        Dialogue.record .probing
        Dialogue.ofOp (prober.probe host c)
        Dialogue.record .probed
        next) state
      (fun _ after => Accounts c state after ∧ .probing ∈ after.2)
      fun _ after => Accounts c state after ∧ .probing ∈ after.2 := by
  obtain ⟨memory, calls⟩ := state
  refine .ofOp_bind ((does_log _ _ _).weaken fun _ logged hlogged => .record_bind ?_)
  refine .ofOp_bind ((hprober.does_probe host c logged).mono (fun _ marked hmarked => ?_) ?_)
  · obtain ⟨brought, hbrought, hmarked⟩ := hmarked
    rw [hlogged] at hbrought
    have hcompleted : Accounts c (memory, calls) (marked, .probed :: .probing :: calls) :=
      .completed hc hunprobed hbrought hmarked
    refine .record_bind (Does.mono (hnext _ (hcompleted.held c hc)) (fun _ after hafter => ?_)
      fun _ after hafter => ?_)
    · exact ⟨hcompleted.trans hafter, hafter.recorded.subset (by simp)⟩
    · exact ⟨hcompleted.trans hafter, hafter.recorded.subset (by simp)⟩
  · intro failure after hafter
    rw [hlogged] at hafter
    exact ⟨.failed hunprobed hafter, List.mem_cons_self⟩

theorem accounts_search {prober : Option Prober} {verifier : Verifier}
    (hprober : ∀ p ∈ prober, p.IsPackaged) (hverifier : verifier.IsPackaged) (allowed : Nat)
    (hc : state.1.store.caches.Holds c) :
    Moves (Accounts c) (search host c name value prober verifier allowed) state := by
  induction allowed generalizing state with
  | zero => exact .pure ((Aside.refl state).accounts c)
  | succ further ih =>
    unfold search
    have hattempt : Moves (Accounts c) (attempt host c name value verifier) state :=
      (aside_attempt hverifier).mono fun _ hafter => hafter.accounts c
    refine hattempt.bind fun found tried htried => ?_
    have hnothing : Accounts c tried tried := (Aside.refl tried).accounts c
    cases found with
    | some d => exact .pure hnothing
    | none =>
      cases prober with
      | none => exact .pure hnothing
      | some p =>
        refine .ofLook_bind ?_
        split
        · exact .pure hnothing
        · next hgo =>
          rw [Bool.or_eq_true, not_or, Bool.not_eq_true] at hgo
          have hprobing := does_probing host (hprober p rfl) (htried.held c hc) hgo.1
            ("No match for " ++ pairText name value ++ ", probing all devices")
            fun noted hnoted => ih hnoted
          exact hprobing.mono (fun _ _ hdone => hdone.1) fun _ _ hfailed => hfailed.1

/-- A look without a result in a cache that is not marked leads to a call of the prober. -/
theorem does_search_of_miss {prober : Prober} {verifier : Verifier}
    (hprober : prober.IsPackaged) (hverifier : verifier.IsPackaged) {further : Nat}
    (hfurther : further ≠ 0) (hc : state.1.store.caches.Holds c)
    (hunprobed : (state.1.store.cache c).probed = false) {tried : Memory × List Call}
    (hmiss : attempt host c name value verifier state = .ok none tried) :
    Does (search host c name value (some prober) verifier (further + 1)) state
      (fun _ after => .probing ∈ after.2) fun _ after => .probing ∈ after.2 := by
  have hattempt : Does (attempt host c name value verifier) state
      (fun found after => found = none ∧ Aside state after) fun _ _ => False := by
    have haside : Moves Aside (attempt host c name value verifier) state := aside_attempt hverifier
    unfold Moves Does at *
    rw [hmiss] at haside ⊢
    exact ⟨rfl, haside⟩
  unfold search
  refine hattempt.andThen fun found after hafter => ?_
  obtain ⟨rfl, haside⟩ := hafter
  have hstill : (after.1.store.cache c).probed = false := (haside.same.probed c).trans hunprobed
  refine .ofLook_bind ?_
  rw [hstill, Bool.false_or, if_neg (by simpa using hfurther)]
  have hrest : ∀ noted : Memory × List Call, noted.1.store.caches.Holds c →
      Moves (Accounts c) (search host c name value (some prober) verifier further) noted :=
    fun noted hnoted => accounts_search (by simpa using hprober) hverifier further hnoted
  have hprobing := does_probing host hprober (haside.same.held c hc) hstill
    ("No match for " ++ pairText name value ++ ", probing all devices") hrest
  exact hprobing.mono (fun _ _ hdone => hdone.2) fun _ _ hfailed => hfailed.2

variable {quest : Quest}

theorem Quest.accounts_dialogue (hfits : quest.Fits state.1.store) :
    Moves (Accounts quest.cache) (quest.dialogue host) state := by
  unfold Quest.dialogue Lookup.dialogue
  refine .ofLook_bind ?_
  have hlog : Moves (Accounts quest.cache) (Dialogue.ofOp quest.announce) state :=
    (aside_ofOp (.log _ _ _)).mono fun _ hafter => hafter.accounts _
  refine hlog.bind fun _ looking hlooking => ?_
  exact accounts_search hfits.prober hfits.verifier _ (hlooking.held _ hfits.held)

/-- A quest whose first look finds nothing calls its prober if its cache is not marked. -/
theorem Quest.does_dialogue_of_miss {before : Memory} {calls : List Call} {p : Prober}
    (hfits : quest.Fits before.store) (hprober : quest.proberIn before.store = some p)
    (hunprobed : (before.store.cache quest.cache).probed = false) {tried : Memory × List Call}
    (hmiss : attempt host quest.cache quest.name quest.value (quest.verifierIn before.store)
      (quest.announce.after before, calls) = .ok none tried) :
    Does (quest.dialogue host) (before, calls) (fun _ after => .probing ∈ after.2)
      fun _ after => .probing ∈ after.2 := by
  have hsearch := does_search_of_miss (hfits.prober p hprober) hfits.verifier Nat.one_ne_zero
    hfits.held hunprobed hmiss
  rw [← hprober] at hsearch
  unfold Quest.dialogue Lookup.dialogue
  refine .ofLook_bind ?_
  exact hsearch

end Lookup

/-! ## Operations account for marks -/

namespace Action

open Lookup (Quest)

variable {host : Host} {action : Action} {quest : Quest} {memory : Memory}

theorem exists_note (action : Action) (memory : Memory) :
    ∃ noted, SameButLog memory noted ∧ action.note memory = .ok () noted := by
  cases action with
  | deviceName c token value => exact (Inquiry.deviceName token value).exists_note memory
  | _ => exact ⟨memory, .refl memory, rfl⟩

/-- A lookup whose arguments do not pass looks nothing up. -/
theorem unmoved_find {c : Option CacheId} {name value : Option String} {prober : Option Prober}
    {verifier : Option Verifier} (hquest : (find c name value prober verifier).quest? = none) :
    Moves (fun s t => t.store = s.store) (Lookup.find host c name value prober verifier) memory := by
  unfold quest? at hquest
  dsimp only at hquest
  unfold Lookup.find
  split at hquest
  · cases hquest
  · next failure hfail =>
    rw [hfail]
    exact Does.throw rfl

theorem unmoved_deviceName {c : Option CacheId} {token value : Option String}
    (hquest : (deviceName c token value).quest? = none) :
    Moves (fun s t => t.store = s.store) (Lookup.deviceName host c token value) memory := by
  unfold quest? at hquest
  cases c with
  | none => exact Does.throw rfl
  | some c =>
    rw [deviceName_eq]
    obtain ⟨noted, ⟨hstore, -⟩, hnote⟩ := (deviceName (some c) token value).exists_note memory
    unfold Moves Does
    rw [Op.bind_of_ok hnote]
    dsimp only at hquest
    cases haim : (Inquiry.deviceName token value).aim with
    | error failure => exact hstore
    | ok aim =>
      cases aim with
      | inl device => exact hstore
      | inr pair =>
        rw [haim] at hquest
        cases hquest

/-- The quest of an admissible operation finds its cache and packaged collaborators. -/
theorem fits_quest (hquest : action.quest? = some quest)
    (hadmissible : action.Admissible memory.store) (hpackaged : memory.store.Packaged) :
    quest.Fits memory.store := by
  have hgiven : memory.store.caches.Holds quest.cache ∧ (∀ p ∈ quest.prober, p.IsPackaged) ∧
      ∀ v ∈ quest.verifier, v.IsPackaged := by
    unfold quest? at hquest
    split at hquest
    · next c name value prober verifier =>
      split at hquest
      · next k n v hpass =>
        cases hquest
        refine ⟨hadmissible.1 k ?_, hadmissible.2⟩
        unfold Lookup.requireArguments at hpass
        split at hpass <;> cases hpass
        rfl
      · cases hquest
    · next c token value =>
      split at hquest
      · cases hquest
        exact ⟨hadmissible c rfl, nofun, nofun⟩
      · cases hquest
    · cases hquest
  obtain ⟨hheld, hprober, hverifier⟩ := hgiven
  refine ⟨hheld, ?_, ?_⟩
  · unfold Quest.proberIn
    cases hgiven : quest.prober with
    | some p =>
      rw [hgiven] at hprober
      exact hprober
    | none => exact hpackaged.prober quest.cache
  · unfold Quest.verifierIn
    cases hgiven : quest.verifier with
    | some v => exact hverifier v hgiven
    | none =>
      cases hown : (memory.store.cache quest.cache).verifier with
      | none => exact trivial
      | some own => exact hpackaged.verifier quest.cache own hown

/-- What comes after the note, in the state that the note leaves. -/
theorem converse_apply {noted : Memory} (hquest : action.quest? = some quest)
    (hnote : action.note memory = .ok () noted) (calls : List Call) :
    action.converse host (memory, calls) = (do
      let found ← quest.dialogue host
      Dialogue.ofOp (discard (Lookup.foundName found))) (noted, calls) := by
  unfold converse
  rw [hquest]
  exact ofOp_bind_of_ok hnote

/-- With its conversation, an operation on a quest ends where the quest does. -/
theorem ending_converse {noted : Memory} (hquest : action.quest? = some quest)
    (hnote : action.note memory = .ok () noted) (calls : List Call) :
    (action.converse host).ending (memory, calls) = (quest.dialogue host).ending (noted, calls) := by
  unfold Dialogue.ending
  rw [converse_apply hquest hnote]
  simp only [discard_foundName, bind, EStateM.bind]
  cases quest.dialogue host (noted, calls) <;> rfl

theorem accounts_converse (hquest : action.quest? = some quest)
    (hfits : quest.Fits memory.store) (calls : List Call) :
    Moves (Accounts quest.cache) (action.converse host) (memory, calls) := by
  obtain ⟨noted, ⟨hstore, -⟩, hnote⟩ := action.exists_note memory
  have hsame : memory.store.SameMarks noted.store := by
    rw [hstore]
    exact .refl _
  have haside : Aside (memory, calls) (noted, calls) := ⟨hsame, List.suffix_refl _, rfl, rfl⟩
  have hnoting := haside.accounts quest.cache
  rw [← hstore] at hfits
  have hrest : Moves (Accounts quest.cache) (do
      let found ← quest.dialogue host
      Dialogue.ofOp (discard (Lookup.foundName found))) (noted, calls) := by
    refine (Quest.accounts_dialogue hfits).bind fun found _ _ => ?_
    rw [discard_foundName]
    exact (Lookup.aside_ofOp (.pure ())).mono fun _ hafter => hafter.accounts _
  unfold Moves Does
  rw [converse_apply hquest hnote]
  exact Does.mono hrest (fun _ _ hafter => hnoting.trans hafter)
    fun _ _ hafter => hnoting.trans hafter

/-- The first look of an operation in the index finds nothing. -/
def Misses (host : Host) (action : Action) (quest : Quest) (memory : Memory) : Prop :=
  ∃ tried, Lookup.attempt host quest.cache quest.name quest.value (quest.verifierIn memory.store)
    ((do action.note; quest.announce : Op Unit).after memory, []) = .ok none tried

theorem does_converse_of_miss (hquest : action.quest? = some quest)
    (hfits : quest.Fits memory.store) (hprober : (quest.proberIn memory.store).isSome)
    (hunprobed : (memory.store.cache quest.cache).probed = false)
    (hmiss : action.Misses host quest memory) :
    Does (action.converse host) (memory, []) (fun _ after => .probing ∈ after.2)
      fun _ after => .probing ∈ after.2 := by
  obtain ⟨noted, ⟨hstore, -⟩, hnote⟩ := action.exists_note memory
  obtain ⟨tried, hmiss⟩ := hmiss
  obtain ⟨p, hp⟩ := Option.isSome_iff_exists.mp hprober
  have hlooking : (do action.note; quest.announce : Op Unit).after memory =
      quest.announce.after noted := by
    unfold Op.after
    rw [Op.bind_of_ok hnote]
  rw [hlooking, ← hstore] at hmiss
  rw [← hstore] at hfits hp hunprobed
  unfold Does
  rw [converse_apply hquest hnote]
  refine Does.bind (Quest.does_dialogue_of_miss hfits hp hunprobed hmiss)
    (fun found after hcalled => ?_) fun _ _ hfailed => hfailed
  rw [discard_foundName]
  exact hcalled

end Action

end DeviceTags
