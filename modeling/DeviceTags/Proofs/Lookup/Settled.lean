import DeviceTags.Proofs.Lookup.Candidate

/-!
# Lookups with nothing to probe

A verifier that accepts gives back the device that it is asked about and leaves the store alone. With
such a verifier, and where no prober runs, a lookup is one look into the index: it gives the device
of the leading entry, and only the log is longer after it.
-/

namespace DeviceTags

variable {host : Host} {c : CacheId} {name value : String} {before : Memory} {calls : List Call}

/-- What a look into the index finds: the device of the leading entry, if an entry matches. -/
def Store.Answers (store : Store) (c : CacheId) (name value : String) : Option DeviceId → Prop
  | none => store.matching c name value = []
  | some d => ∃ t, store.Leads (store.matching c name value) t d

/-- The state after an operation that only writes to the log. -/
structure SameButLog (before after : Memory) : Prop where
  store : after.store = before.store
  supply : after.supply = before.supply

namespace SameButLog

theorem refl (memory : Memory) : SameButLog memory memory := ⟨rfl, rfl⟩

theorem trans {first second third : Memory} (hfirst : SameButLog first second)
    (hsecond : SameButLog second third) : SameButLog first third :=
  ⟨hsecond.store.trans hfirst.store, hsecond.supply.trans hfirst.supply⟩

end SameButLog

theorem does_log_same (level : Level) (source : Source) (message : String) :
    Does (Op.log level source message) before (fun _ after => SameButLog before after)
      fun _ _ => False := ⟨rfl, rfl⟩

/-- An operation goes through without its record if it does with one. -/
theorem Does.toOp {α : Type} {dialogue : Dialogue α} {done : α → Memory → Prop}
    (hdoes : Does dialogue (before, []) (fun value after => done value after.1) fun _ _ => False) :
    Does dialogue.toOp before done fun _ _ => False := by
  unfold Does at *
  unfold Dialogue.toOp
  split at hdoes
  · next hrun =>
    rw [hrun]
    exact hdoes
  · exact hdoes.elim

/-- The verifier confirms every device that it is asked about and writes to nothing but the log. -/
def Verifier.Accepts (host : Host) (c : CacheId) (verifier : Verifier) : Prop :=
  ∀ (before : Memory) (d : DeviceId),
    Does (verifier.verify host c (some d)) before
      (fun answer after => answer = some d ∧ SameButLog before after) fun _ _ => False

theorem Verifier.accepts_trusting (host : Host) (c : CacheId) :
    Verifier.trusting.Accepts host c := fun before _ => .pure ⟨rfl, .refl before⟩

namespace Lookup

/-- The device of the leading entry carries the pair. -/
theorem hasPair_of_leads {store : Store} (hclean : Audit.Clean store c) {t : TagId} {d : DeviceId}
    (hleads : store.Leads (store.matching c name value) t d) :
    store.hasPair d name value = true := by
  obtain ⟨front, back, hplace, -⟩ := hleads.place
  have ht : t ∈ store.matching c name value := by
    rw [hplace]
    simp
  obtain ⟨hentry, hvalue⟩ := List.mem_filter.mp ht
  rw [decide_eq_true_eq] at hvalue
  unfold Store.entries at hentry
  split at hentry
  · cases hentry
  · next h hfound =>
    have hmem := Store.mem_heads_of_headOf? hfound
    have hname : (store.tag t).name = name := hclean.named (name, h) hmem t hentry
    obtain ⟨e, -, howner, hlisted⟩ := hclean.registered (name, h) hmem t hentry
    rw [hleads.owner] at howner
    cases howner
    exact List.any_eq_true.mpr ⟨t, hlisted, by simp [hname, hvalue]⟩

variable {verifier : Verifier}

/-- An attempt whose verifier accepts gives what a look into the index finds. -/
theorem does_attempt_accepting (haccepts : verifier.Accepts host c)
    (hclean : Audit.Clean before.store c) :
    Does (attempt host c name value verifier) (before, calls)
      (fun found after => SameButLog before after.1 ∧ before.store.Answers c name value found)
      fun _ _ => False := by
  unfold attempt
  have hcandidate := does_candidate (owned_of_clean hclean name value)
  refine .ofOp_bind (hcandidate.weaken fun found _ hfound => ?_)
  obtain ⟨rfl, ⟨rfl, hnone⟩ | ⟨t, d, rfl, hleads⟩⟩ := hfound
  · exact .pure ⟨.refl before, hnone⟩
  · refine .record_bind (.ofOp_bind ((haccepts before d).weaken fun answer verified hanswer => ?_))
    obtain ⟨rfl, hkept⟩ := hanswer
    refine .record_bind (.ofOp (.look_bind (.look_bind ?_)))
    rw [hkept.store, if_pos (hasPair_of_leads hclean hleads)]
    exact (does_log_same _ _ _).andThen fun _ after hafter =>
      .pure ⟨hkept.trans hafter, t, hleads⟩

/-- Where there is nothing to probe, a search is one attempt. -/
theorem does_search_settled (haccepts : verifier.Accepts host c)
    (hclean : Audit.Clean before.store c) {prober : Option Prober}
    (hsettled : prober = none ∨ (before.store.cache c).probed = true) (further : Nat) :
    Does (search host c name value prober verifier (further + 1)) (before, calls)
      (fun found after => SameButLog before after.1 ∧ before.store.Answers c name value found)
      fun _ _ => False := by
  unfold search
  refine (does_attempt_accepting haccepts hclean).andThen fun found after hfound => ?_
  obtain ⟨now, called⟩ := after
  cases found with
  | some d => exact .pure hfound
  | none =>
    cases prober with
    | none => exact .pure hfound
    | some p =>
      have hprobed : (now.store.cache c).probed = true := by
        rw [hfound.1.store]
        exact hsettled.resolve_left (by simp)
      refine .ofLook_bind ?_
      rw [if_pos (by simp [hprobed])]
      exact .pure hfound

/-- A lookup with nothing to probe gives what a look into the index finds. -/
theorem does_find_settled (value : String) {prober : Option Prober} {given : Option Verifier}
    (hname : name ≠ "") (hclean : Audit.Clean before.store c)
    (hsettled : (prober <|> (before.store.cache c).prober) = none ∨
      (before.store.cache c).probed = true)
    (haccepts : ((given <|> (before.store.cache c).verifier).getD .trusting).Accepts host c) :
    Does (find host (some c) (some name) (some value) prober given) before
      (fun found after => SameButLog before after ∧ before.store.Answers c name value found)
      fun _ _ => False := by
  unfold find
  rw [requireArguments_eq_ok hname]
  refine Does.toOp (?_ : Does (dialogue host c name value prober given) _ _ _)
  unfold dialogue
  refine .ofLook_bind (.ofOp_bind ((does_log_same _ _ _).weaken fun _ logged hlogged => ?_))
  rw [← hlogged.store] at hclean hsettled haccepts ⊢
  refine (does_search_settled haccepts hclean hsettled 1).weaken fun found after hafter => ?_
  exact ⟨hlogged.trans hafter.1, hafter.2⟩

end Lookup

end DeviceTags
