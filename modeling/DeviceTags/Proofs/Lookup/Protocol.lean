import DeviceTags.Proofs.Inventory.Pass
import DeviceTags.Proofs.Lookup.Candidate

/-!
# The protocol of a lookup

What a lookup does with collaborators that may change the store in any way, as long as they do not
fail and leave an index in which the audit finds nothing. They need not do so everywhere. It is
enough that they do on the states that they are handed, of which any condition may be known: that
memory is not short, or that there is a device of some name. A lookup is a row of attempts. Each
attempt asks the verifier about the candidate that it finds, and the next attempt follows on a run of
the prober.
-/

namespace DeviceTags

/-- A condition on the states that the collaborators of a lookup are handed. The audit finds nothing
in such a state, and writing to the log leaves it such a state. -/
structure Terms (c : CacheId) (given : Memory → Prop) : Prop where
  clean : ∀ memory, given memory → Audit.problems memory.store c = []
  logged : ∀ (memory : Memory) (record : Record), given memory →
    given { memory with log := record :: memory.log }

/-- The prober does not fail on a state of that condition, and leaves one. -/
def Prober.Keeps (host : Host) (c : CacheId) (given : Memory → Prop) (prober : Prober) : Prop :=
  ∀ before, given before →
    Does (prober.probe host c) before (fun _ after => given after) fun _ _ => False

/-- Nor does the verifier, when it is asked about the device of the leading entry. -/
def Verifier.Keeps (host : Host) (c : CacheId) (name value : String) (given : Memory → Prop)
    (verifier : Verifier) : Prop :=
  ∀ before, given before →
    ∀ t d, before.store.Leads (before.store.matching c name value) t d →
      Does (verifier.verify host c (some d)) before (fun _ after => given after) fun _ _ => False

/-- The call asks a verifier. -/
def Call.isAsking : Call → Bool
  | .asking _ => true
  | _ => false

namespace Lookup

/-- One look into the index: the state in which it finds its candidate, the device that the verifier
is asked about, its answer, and the state that it leaves. -/
structure Attempt where
  before : Memory
  asked : Option DeviceId
  answer : Option DeviceId
  after : Memory

namespace Attempt

/-- The device that the verifier answered with, if it carries the pair by then. -/
def result (name value : String) (attempt : Attempt) : Option DeviceId :=
  attempt.answer.filter (attempt.after.store.hasPair · name value)

def calls (attempt : Attempt) : List Call :=
  match attempt.asked with
  | none => []
  | some d => [.asking (some d), .answer attempt.answer]

end Attempt

/-- The calls of a row of attempts, with a run of the prober between any two. -/
def conversation : List Attempt → List Call
  | [] => []
  | [last] => last.calls
  | attempt :: next :: rest => attempt.calls ++ .probing :: .probed :: conversation (next :: rest)

section Course

variable (host : Host) (c : CacheId) (name value : String) (prober : Option Prober)
  (verifier : Verifier)

/-- The verifier is asked about the device of the leading entry, and about nothing where no entry
matches. -/
structure Attempt.Happens (attempt : Attempt) : Prop where
  unasked : attempt.asked = none → attempt.before.store.matching c name value = [] ∧
    attempt.answer = none ∧ attempt.after = attempt.before
  asked : ∀ d, attempt.asked = some d →
    (∃ t, attempt.before.store.Leads (attempt.before.store.matching c name value) t d) ∧
      verifier.verify host c (some d) attempt.before = .ok attempt.answer attempt.after

/-- After an attempt without a result, the prober runs in a cache that is not probed. -/
structure Attempt.Follows (attempt next : Attempt) : Prop where
  noResult : attempt.result name value = none
  unprobed : (attempt.after.store.cache c).probed = false
  probed : ∃ p ∈ prober, ∃ between : Memory, between.store = attempt.after.store ∧
    p.probe host c between = .ok () next.before

/-- A row of so many attempts at most, and the last of them. -/
inductive Course : Nat → List Attempt → Attempt → Prop where
  | ends {further : Nat} {attempt : Attempt}
      (happens : attempt.Happens host c name value verifier)
      (stops : (attempt.result name value).isSome ∨ prober = none ∨
        (attempt.after.store.cache c).probed ∨ further = 0) :
      Course (further + 1) [attempt] attempt
  | goesOn {further : Nat} {attempt next last : Attempt} {rest : List Attempt}
      (happens : attempt.Happens host c name value verifier)
      (follows : attempt.Follows host c name value prober next)
      (goes : Course further (next :: rest) last) :
      Course (further + 1) (attempt :: next :: rest) last

end Course

section Counts

theorem Attempt.count_probing_calls (attempt : Attempt) : attempt.calls.count .probing = 0 := by
  unfold calls
  split <;> rfl

theorem Attempt.countP_isAsking_calls_le (attempt : Attempt) :
    attempt.calls.countP Call.isAsking ≤ 1 := by
  unfold calls
  split
  · exact Nat.zero_le 1
  · exact Nat.le_refl 1

/-- The prober runs between any two attempts. -/
theorem count_probing_conversation (attempt : Attempt) (rest : List Attempt) :
    (conversation (attempt :: rest)).count .probing = rest.length := by
  induction rest generalizing attempt with
  | nil => exact attempt.count_probing_calls
  | cons next rest ih =>
    rw [conversation, List.count_append, attempt.count_probing_calls, List.count_cons_self,
      List.count_cons_of_ne (by decide), ih, List.length_cons]
    omega

theorem countP_isAsking_conversation_le (attempts : List Attempt) :
    (conversation attempts).countP Call.isAsking ≤ attempts.length := by
  induction attempts with
  | nil => exact Nat.le_refl 0
  | cons attempt rest ih =>
    have hfirst := attempt.countP_isAsking_calls_le
    cases rest with
    | nil => exact hfirst
    | cons next rest =>
      rw [conversation, List.countP_append, List.countP_cons_of_neg (by decide),
        List.countP_cons_of_neg (by decide), List.length_cons]
      omega

end Counts

/-! ## Attempts and searches -/

section Search

variable {host : Host} {c : CacheId} {name value : String} {prober : Option Prober}
  {verifier : Verifier} {given : Memory → Prop} {before : Memory} {calls : List Call}

/-- A lookup writes to the log between any two calls of its collaborators. -/
theorem does_log_given (hterms : Terms c given) (hgiven : given before) (level : Level)
    (source : Source) (message : String) :
    Does (Op.log level source message) before
      (fun _ after => given after ∧ after.store = before.store) fun _ _ => False :=
  ⟨hterms.logged _ _ hgiven, rfl⟩

/-- An attempt cannot fail where the verifier cannot. -/
theorem does_attempt (hterms : Terms c given) (hverifier : verifier.Keeps host c name value given)
    (hgiven : given before) :
    Does (attempt host c name value verifier) (before, calls)
      (fun result after => ∃ a : Attempt, a.before = before ∧
        a.Happens host c name value verifier ∧ result = a.result name value ∧
        after.1.store = a.after.store ∧ after.2 = a.calls.reverse ++ calls ∧ given after.1)
      fun _ _ => False := by
  unfold attempt
  have hclean := Audit.problems_eq_nil_iff.mp (hterms.clean before hgiven)
  have hcandidate := does_candidate (owned_of_clean hclean name value)
  refine .ofOp_bind (hcandidate.weaken fun found _ hfound => ?_)
  obtain ⟨rfl, ⟨rfl, hnone⟩ | ⟨t, d, rfl, hleads⟩⟩ := hfound
  · refine .pure ⟨⟨before, none, none, before⟩, rfl, ⟨fun _ => ⟨hnone, rfl, rfl⟩, ?_⟩, rfl, rfl,
      rfl, hgiven⟩
    intro d hd
    cases hd
  · refine .record_bind ?_
    have hverify := (hverifier before hgiven t d hleads).run
    refine .ofOp_bind (hverify.weaken fun answer after hanswer => ?_)
    obtain ⟨hrun, hkept⟩ := hanswer
    have hhappens : Attempt.Happens host c name value verifier
        ⟨before, some d, answer, after⟩ := by
      constructor
      · intro hnone
        cases hnone
      · intro e he
        cases he
        exact ⟨⟨t, hleads⟩, hrun⟩
    have hdone : ∀ (result : Option DeviceId) (final : Memory),
        result = answer.filter (after.store.hasPair · name value) →
        given final ∧ final.store = after.store →
        ∃ a : Attempt, a.before = before ∧ a.Happens host c name value verifier ∧
          result = a.result name value ∧ final.store = a.after.store ∧
          .answer answer :: .asking (some d) :: calls = a.calls.reverse ++ calls ∧ given final :=
      fun result final hresult hfinal =>
        ⟨⟨before, some d, answer, after⟩, rfl, hhappens, hresult, hfinal.2, rfl, hfinal.1⟩
    refine .record_bind (.ofOp ?_)
    cases answer with
    | none => exact hdone none _ rfl ⟨hterms.logged _ _ hkept, rfl⟩
    | some e =>
      refine .look_bind (.look_bind ?_)
      have hlog := does_log_given hterms hkept .debug .resolve
      by_cases hpair : after.store.hasPair e name value
      · rw [if_pos hpair]
        refine (hlog _).andThen fun _ _ hlogged => .pure (hdone _ _ ?_ hlogged)
        rw [Option.filter_some, if_pos hpair]
      · rw [if_neg hpair]
        refine (hlog _).andThen fun _ _ hlogged => .pure (hdone _ _ ?_ hlogged)
        rw [Option.filter_some, if_neg hpair]

/-- A search cannot fail where no attempt and no run of the prober can, and it follows a course. -/
theorem does_search (hterms : Terms c given) (hprober : ∀ p ∈ prober, p.Keeps host c given)
    (hverifier : verifier.Keeps host c name value given) {allowed : Nat} (hallowed : allowed ≠ 0)
    (hgiven : given before) :
    Does (search host c name value prober verifier allowed) (before, calls)
      (fun result after => ∃ (first : Attempt) (rest : List Attempt) (last : Attempt),
        first.before = before ∧
        Course host c name value prober verifier allowed (first :: rest) last ∧
        result = last.result name value ∧ after.1.store = last.after.store ∧
        after.2 = (conversation (first :: rest)).reverse ++ calls ∧ given after.1)
      fun _ _ => False := by
  -- Every attempt that is not the last one leaves one attempt less.
  induction allowed generalizing before calls with
  | zero => exact absurd rfl hallowed
  | succ further ih =>
    unfold search
    refine (does_attempt hterms hverifier hgiven).andThen fun result tried htried => ?_
    obtain ⟨now, _⟩ := tried
    obtain ⟨a, rfl, hhappens, rfl, hstore, rfl, hkept⟩ := htried
    cases hresult : a.result name value with
    | some d =>
      have hfound : (a.result name value).isSome := by rw [hresult]; rfl
      exact .pure ⟨a, [], a, rfl, .ends hhappens (.inl hfound), hresult.symm, hstore, rfl, hkept⟩
    | none =>
      cases prober with
      | none =>
        exact .pure
          ⟨a, [], a, rfl, .ends hhappens (.inr (.inl rfl)), hresult.symm, hstore, rfl, hkept⟩
      | some p =>
        refine .ofLook_bind ?_
        split
        · next hstop =>
          rw [Bool.or_eq_true, decide_eq_true_eq] at hstop
          refine .pure
            ⟨a, [], a, rfl, .ends hhappens (.inr (.inr ?_)), hresult.symm, hstore, rfl, hkept⟩
          dsimp only at hstore
          rw [← hstore]
          exact hstop
        · next hgo =>
          rw [Bool.or_eq_true, decide_eq_true_eq, not_or, Bool.not_eq_true] at hgo
          obtain ⟨hunprobed, hmore⟩ := hgo
          refine .ofOp_bind ((does_log_given hterms hkept _ _ _).weaken fun _ between hlogged => ?_)
          obtain ⟨hgiven', hbetween⟩ := hlogged
          have hprobe := (hprober p rfl between hgiven').run
          refine .record_bind (.ofOp_bind (hprobe.weaken fun _ probed hprobed => ?_))
          refine .record_bind ((ih hmore hprobed.2).weaken fun result after hafter => ?_)
          obtain ⟨first, rest, last, rfl, hcourse, hresult', hstore', hcalls, hlast⟩ := hafter
          have hfollows : a.Follows host c name value (some p) first := by
            refine ⟨hresult, ?_, p, rfl, between, ?_, hprobed.1⟩
            · rw [← hstore]
              exact hunprobed
            · rw [hbetween, hstore]
          refine ⟨a, first :: rest, last, rfl, .goesOn hhappens hfollows hcourse, hresult', hstore',
            ?_, hlast⟩
          rw [hcalls]
          simp [conversation]

end Search

/-! ## What a course tells -/

section Course

variable {host : Host} {c : CacheId} {name value : String} {prober : Option Prober}
  {verifier : Verifier} {allowed : Nat} {attempts : List Attempt} {last : Attempt}

theorem Course.length_le
    (hcourse : Course host c name value prober verifier allowed attempts last) :
    attempts.length ≤ allowed := by
  induction hcourse with
  | ends happens stops => exact Nat.succ_le_succ (Nat.zero_le _)
  | goesOn happens follows goes ih => exact Nat.succ_le_succ ih

theorem Course.happens (hcourse : Course host c name value prober verifier allowed attempts last) :
    ∀ a ∈ attempts, a.Happens host c name value verifier := by
  induction hcourse with
  | ends happens stops => simpa using happens
  | goesOn happens follows goes ih => simpa using ⟨happens, by simpa using ih⟩

/-- Where more than one attempt is allowed, a second one follows exactly if the first one had no
result and left a prober and a cache to probe. -/
theorem Course.goes_on_iff {first : Attempt} {rest : List Attempt} {further : Nat}
    (hcourse : Course host c name value prober verifier (further + 1) (first :: rest) last)
    (hfurther : further ≠ 0) :
    rest ≠ [] ↔ prober.isSome ∧ first.result name value = none ∧
      (first.after.store.cache c).probed = false := by
  cases hcourse with
  | ends happens stops =>
    simp only [ne_eq, not_true_eq_false, false_iff]
    rintro ⟨hprober, hresult, hunprobed⟩
    rcases stops with hstop | hstop | hstop | hstop
    · rw [hresult] at hstop
      cases hstop
    · rw [hstop] at hprober
      cases hprober
    · rw [hunprobed] at hstop
      cases hstop
    · exact hfurther hstop
  | goesOn happens follows goes =>
    obtain ⟨p, hp, -⟩ := follows.probed
    simp only [ne_eq, reduceCtorEq, not_false_eq_true, true_iff]
    exact ⟨Option.isSome_of_mem hp, follows.noResult, follows.unprobed⟩

end Course

/-! ## Lookups -/

/-- What one lookup does and tells. The calls are recorded with the newest first. -/
structure Protocol (host : Host) (c : CacheId) (name value : String) (prober : Option Prober)
    (verifier : Verifier) (before : Store) (first : Attempt) (rest : List Attempt) (last : Attempt)
    (calls : List Call) (result : Option DeviceId) (after : Store) : Prop where
  starts : first.before.store = before
  course : Course host c name value prober verifier maxAttempts (first :: rest) last
  happens : ∀ a ∈ first :: rest, a.Happens host c name value verifier
  recorded : calls.reverse = conversation (first :: rest)
  probesOnce : calls.count .probing ≤ 1
  probes : calls.count .probing = 1 ↔ prober.isSome ∧ first.result name value = none ∧
    (first.after.store.cache c).probed = false
  asksTwice : calls.countP Call.isAsking ≤ 2
  ends : last.after.store = after
  answers : ∀ d, result = some d ↔ last.answer = some d ∧ after.hasPair d name value

section Find

variable {host : Host} {c : CacheId} {name value : String} {prober : Option Prober}
  {verifier : Option Verifier} {given : Memory → Prop} {memory : Memory}

theorem Course.protocol {verifier : Verifier} {first last : Attempt} {rest : List Attempt}
    (hcourse : Course host c name value prober verifier maxAttempts (first :: rest) last) :
    Protocol host c name value prober verifier first.before.store first rest last
      (conversation (first :: rest)).reverse (last.result name value) last.after.store := by
  have hlength : rest.length ≤ 1 := Nat.le_of_succ_le_succ hcourse.length_le
  constructor
  case starts => rfl
  case course => exact hcourse
  case happens => exact hcourse.happens
  case recorded => exact List.reverse_reverse _
  case probesOnce =>
    rw [List.count_reverse, count_probing_conversation]
    exact hlength
  case probes =>
    rw [List.count_reverse, count_probing_conversation, ← hcourse.goes_on_iff (by decide),
      ← List.length_pos_iff]
    omega
  case asksTwice =>
    rw [List.countP_reverse]
    exact Nat.le_trans (countP_isAsking_conversation_le _) hcourse.length_le
  case ends => rfl
  case answers =>
    intro d
    rw [Attempt.result, Option.filter_eq_some_iff]

theorem does_dialogue (hterms : Terms c given) (name value : String) (hgiven : given memory)
    (hprober : ∀ p ∈ prober <|> (memory.store.cache c).prober, p.Keeps host c given)
    (hverifier : ∀ v ∈ verifier <|> (memory.store.cache c).verifier,
      v.Keeps host c name value given) :
    Does (dialogue host c name value prober verifier) (memory, [])
      (fun result after => given after.1 ∧
        ∃ (first : Attempt) (rest : List Attempt) (last : Attempt),
          Protocol host c name value (prober <|> (memory.store.cache c).prober)
            ((verifier <|> (memory.store.cache c).verifier).getD .trusting) memory.store first rest
            last after.2 result after.1.store)
      fun _ _ => False := by
  have hchosen : ((verifier <|> (memory.store.cache c).verifier).getD .trusting).Keeps host c name
      value given := by
    cases hchoice : verifier <|> (memory.store.cache c).verifier with
    | none => exact fun before hbefore t d hleads => .pure hbefore
    | some v => exact hverifier v hchoice
  unfold dialogue
  have hlog := does_log_given hterms hgiven .debug .resolve
  refine .ofLook_bind (.ofOp_bind ((hlog _).weaken fun _ logged hafter => ?_))
  obtain ⟨hgiven', hlogged⟩ := hafter
  refine (does_search hterms hprober hchosen (by decide) hgiven').weaken ?_
  intro result after hafter
  obtain ⟨first, rest, last, rfl, hcourse, rfl, hstore, hcalls, hlast⟩ := hafter
  have hprotocol := hcourse.protocol
  rw [hlogged] at hprotocol
  refine ⟨hlast, first, rest, last, ?_⟩
  rw [hcalls, hstore, List.append_nil]
  exact hprotocol

/-- With any collaborators that do not fail and keep the index consistent on the states that they are
handed, a lookup goes through and follows the protocol. -/
theorem find_protocol (hterms : Terms c given) (hgiven : given memory) (hname : name ≠ "")
    (value : String) (host : Host)
    (hprober : ∀ p ∈ prober <|> (memory.store.cache c).prober, p.Keeps host c given)
    (hverifier : ∀ v ∈ verifier <|> (memory.store.cache c).verifier,
      v.Keeps host c name value given) :
    ∃ (result : Option DeviceId) (final : Memory) (calls : List Call) (first : Attempt)
      (rest : List Attempt) (last : Attempt),
      find host (some c) (some name) (some value) prober verifier memory = .ok result final ∧
      dialogue host c name value prober verifier (memory, []) = .ok result (final, calls) ∧
      given final ∧
      Protocol host c name value (prober <|> (memory.store.cache c).prober)
        ((verifier <|> (memory.store.cache c).verifier).getD .trusting) memory.store first rest last
        calls result final.store := by
  have hdialogue := does_dialogue hterms name value hgiven hprober hverifier
  obtain ⟨result, ⟨final, calls⟩, hrun, hfinal, first, rest, last, hprotocol⟩ :=
    hdialogue.exists_ok
  have hfind : find host (some c) (some name) (some value) prober verifier memory =
      (dialogue host c name value prober verifier).toOp memory := by
    unfold find
    rw [requireArguments_eq_ok hname]
    rfl
  refine ⟨result, final, calls, first, rest, last, ?_, hrun, hfinal, hprotocol⟩
  rw [hfind, Dialogue.toOp, hrun]

end Find

/-! ## Collaborators of a program that is not short of memory -/

/-- The index is sound, the cache lists all devices that point to it, the direct accesses agree with
the tags, and memory has no limit. -/
structure Ample (c : CacheId) (memory : Memory) : Prop where
  sound : memory.store.Sound
  registered : memory.store.Registered c
  aliased : memory.store.Aliased
  held : memory.store.caches.Holds c
  supply : memory.supply = .unlimited

section Ample

variable {c : CacheId} {memory : Memory}

theorem terms_ample : Terms c (Ample c) where
  clean _ hample := Audit.problems_eq_nil_iff.mpr (hample.sound.clean hample.registered)
  logged _ _ hample :=
    ⟨hample.sound, hample.registered, hample.aliased, hample.held, hample.supply⟩

theorem Ample.advance {after : Memory} (hample : Ample c memory)
    (hadvance : memory.store.Advance after.store) (hsupply : after.supply = .unlimited) :
    Ample c after where
  sound := hadvance.sound
  registered := hadvance.registered c hample.registered
  aliased := hadvance.aliased hample.aliased
  held := hadvance.progress.lasting.holds_cache hample.held
  supply := hsupply

/-- An inventory of valid devices, each declared once, comes through with memory to spare. -/
theorem keeps_inventory {inventory : Inventory}
    (hvalid : ∀ spec ∈ inventory.devices, spec.Valid ∧ (spec.tags.map Prod.fst).Nodup)
    (honce : (inventory.devices.map DeviceSpec.name).Nodup) (host : Host) :
    (Prober.inventory inventory).Keeps host c (Ample c) := by
  intro before hample
  have hprobe := short_probe hvalid honce hample.sound hample.aliased hample.held
  refine (hprobe.goesThrough hample.supply).weaken fun _ after hafter => ?_
  exact hample.advance hafter.2.advance hafter.1

end Ample

/-- A host whose verifier labels every device with its own name, and confirms it. -/
def relabellingHost : Host where
  contains _ := .ok true
  probe _ _ := pure ()
  verify _ _ d := do
    match d with
    | none => return none
    | some d =>
      Tagging.set (some d) (.string "LABEL") (.string (← Op.device d).name) true
      return some d

theorem keeps_relabelling (c : CacheId) (name value : String) :
    (Verifier.custom 0).Keeps relabellingHost c name value (Ample c) := by
  intro before hample t d hleads
  have hd : before.store.devices.Holds d := by
    obtain ⟨e, howner, hcache⟩ := owner_of_sound hample.sound hleads.mem
    rw [hleads.owner] at howner
    cases howner
    exact Store.holds_device_of_cache hcache
  have hset := goes_set d (by decide : "LABEL" ≠ "") (before.store.device d).name true
    hample.supply
  refine Does.look_bind (hset.andThen fun _ after hafter => .pure (hample.advance ?_ hafter.1))
  rw [hafter.2]
  exact hample.sound.advance_setTag hd "LABEL" (some (before.store.device d).name) true

/-- A device before all others, whose label is its name. -/
def selfLabelled : Inventory where
  devices :=
    [{ name := "data", priority := some (.integer 7), tags := [("LABEL", .string "data")] }]

/-- Three devices have the label in turn. The one that the first attempt finds has another name and
loses it. The inventory then brings in a device that keeps it, before the one that is left. -/
theorem protocol_relabelled :
    ∃ (final : Memory) (first : Attempt) (rest : List Attempt) (last : Attempt),
    find relabellingHost (some ⟨0⟩) (some "LABEL") (some "data") (some (.inventory selfLabelled))
        (some (.custom 0)) { lateAttached.1 with supply := .unlimited } = .ok (some ⟨2⟩) final ∧
      Ample ⟨0⟩ final ∧
      Protocol relabellingHost ⟨0⟩ "LABEL" "data" (some (.inventory selfLabelled)) (.custom 0)
        lateAttached.1.store first rest last
        [.answer (some ⟨2⟩), .asking (some ⟨2⟩), .probed, .probing, .answer (some ⟨1⟩),
          .asking (some ⟨1⟩)] (some ⟨2⟩) final.store := by
  have hample : Ample ⟨0⟩ { lateAttached.1 with supply := .unlimited } :=
    ⟨run_lateAttached.sound.1, orderly_lateAttached.registered ⟨0⟩, run_lateAttached.aliased,
      (by decide : lateAttached.1.store.caches.Holds ⟨0⟩), rfl⟩
  have hvalid : ∀ spec ∈ selfLabelled.devices, spec.Valid ∧ (spec.tags.map Prod.fst).Nodup := by
    intro spec hmem
    obtain rfl := List.mem_singleton.mp hmem
    exact ⟨⟨by decide, by decide, by simp⟩, by decide⟩
  have hprober : ∀ p ∈ some (Prober.inventory selfLabelled) <|>
      (lateAttached.1.store.cache ⟨0⟩).prober, p.Keeps relabellingHost ⟨0⟩ (Ample ⟨0⟩) := by
    intro p hp
    cases hp
    exact keeps_inventory hvalid (by decide) relabellingHost
  have hverifier : ∀ v ∈ some (Verifier.custom 0) <|> (lateAttached.1.store.cache ⟨0⟩).verifier,
      v.Keeps relabellingHost ⟨0⟩ "LABEL" "data" (Ample ⟨0⟩) := by
    intro v hv
    cases hv
    exact keeps_relabelling ⟨0⟩ "LABEL" "data"
  obtain ⟨result, final, calls, first, rest, last, hfind, hdialogue, hfinal, hprotocol⟩ :=
    find_protocol terms_ample hample (by decide : "LABEL" ≠ "") "data" relabellingHost hprober
      hverifier
  have hcalls : (match dialogue relabellingHost ⟨0⟩ "LABEL" "data"
      (some (.inventory selfLabelled)) (some (.custom 0))
      ({ lateAttached.1 with supply := .unlimited }, []) with
    | .ok result after => some (result, after.2)
    | .error _ _ => none) = some (some ⟨2⟩, [.answer (some ⟨2⟩), .asking (some ⟨2⟩), .probed,
      .probing, .answer (some ⟨1⟩), .asking (some ⟨1⟩)]) := by decide +kernel
  rw [hdialogue] at hcalls
  cases hcalls
  exact ⟨final, first, rest, last, hfind, hfinal, hprotocol⟩

end Lookup

end DeviceTags
