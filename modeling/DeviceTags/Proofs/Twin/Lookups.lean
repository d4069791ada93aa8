import DeviceTags.Proofs.Lookup.Declared
import DeviceTags.Proofs.Twin.Operations

/-!
# Lookups once the cache is probed

A lookup asks for the prober of the cache, but in a probed cache it makes no use of it. So it ends
alike in states that differ in the prober only. An inquiry is a call of one of the two lookups; what
it does before it looks into the index is one record of the log at most.
-/

namespace DeviceTags

open Store

variable {host : Host} {c : CacheId} {prober : Option Prober} {verifier : Option Verifier}
  {known : Prop} {name value : String}

/-! ## One look into the index -/

theorem better_withProber (store : Store) (best : TagId) (ts : List TagId) :
    Lookup.better (store.withProber c prober) best ts = Lookup.better store best ts := by
  induction ts generalizing best with
  | nil => rfl
  | cons t rest ih =>
    unfold Lookup.better
    simp only [ih]
    rfl

theorem bestMatch_withProber (store : Store) (name value : String) :
    Lookup.bestMatch (store.withProber c prober) c name value =
      Lookup.bestMatch store c name value := by
  unfold Lookup.bestMatch
  simp only [headOf?_withProber, better_withProber]
  rfl

theorem respects_candidate (name value : String) :
    Respects (Memory.Alike c prober verifier known) (Lookup.candidate c name value) := by
  unfold Lookup.candidate
  refine respects_look_bind (fun store => bestMatch_withProber store name value) fun best => ?_
  cases best with
  | error failure => exact .throw failure
  | ok found =>
    cases found with
    | none => exact .pure none
    | some t => exact respects_look_bind (fun _ => rfl) fun tag => .pure _

theorem respects_nameOf (d : Option DeviceId) :
    Respects (Memory.Alike c prober verifier known) (Lookup.nameOf d) := by
  cases d with
  | none => exact .throw _
  | some d => exact respects_look_bind (fun _ => rfl) fun device => .pure _

/-- An attempt is made of its records and of operations that do not ask for the prober, so it keeps
whatever all of these keep. -/
theorem respects_attempt_of {related : Memory × List Call → Memory × List Call → Prop}
    (hoperation : ∀ {α : Type} {operation : Op α},
      (∀ prober verifier known, Respects (Memory.Alike c prober verifier known) operation) →
        Respects related (Dialogue.ofOp operation))
    (hrecord : ∀ call, Respects related (Dialogue.record call)) {given : Verifier}
    (hgiven : ∀ number, given ≠ .custom number) (name value : String) :
    Respects related (Lookup.attempt host c name value given) := by
  unfold Lookup.attempt
  refine (hoperation fun _ _ _ => respects_candidate name value).bind fun found => ?_
  cases found with
  | none => exact .pure none
  | some owner =>
    refine (hrecord _).bind fun _ => ?_
    refine (hoperation fun _ _ _ => respects_verify host c owner hgiven).bind fun answer => ?_
    refine (hrecord _).bind fun _ => hoperation fun _ _ _ => ?_
    cases answer with
    | none =>
      refine (respects_nameOf owner).bind fun _ => ?_
      exact (respects_log _ _ _).bind fun _ => .pure none
    | some d =>
      refine respects_look_bind (fun _ => rfl) fun device => ?_
      refine respects_look_bind (fun _ => rfl) fun carries => ?_
      split
      · exact (respects_log _ _ _).bind fun _ => .pure _
      · exact (respects_log _ _ _).bind fun _ => .pure none

theorem respects_attempt {given : Verifier} (hgiven : ∀ number, given ≠ .custom number)
    (name value : String) :
    Respects (fun s t => Memory.Alike c prober verifier known s.1 t.1)
      (Lookup.attempt host c name value given) :=
  respects_attempt_of (fun hrespects => (hrespects _ _ _).ofOp) Respects.record hgiven name value

/-! ## Searches -/

variable {p : Prober} {given : Verifier}

/-- In a probed cache, a search with a prober is a search without one: both are one attempt. -/
theorem search_alike (hgiven : ∀ number, given ≠ .custom number) {s t : Memory × List Call}
    (halike : Memory.Alike c prober verifier True s.1 t.1) (name value : String)
    (further other : Nat) :
    EndAlike (fun s t => Memory.Alike c prober verifier True s.1 t.1)
      (Lookup.search host c name value (some p) given (further + 1) s)
      (Lookup.search host c name value none given (other + 1) t) := by
  unfold Lookup.search
  refine (respects_attempt hgiven name value s t halike).bind (fun found s t halike => ?_)
    fun _ _ h => h
  cases found with
  | some d => exact ⟨rfl, halike⟩
  | none =>
    have hprobed : (s.1.store.cache c).probed = true := by
      obtain ⟨other, hcache⟩ := @exists_cache_withProber c prober t.1.store c
      rw [halike.store, hcache]
      exact halike.probed trivial
    change EndAlike _ ((if (s.1.store.cache c).probed || decide (further = 0) then
      (pure none : Dialogue (Option DeviceId)) else _) s) _
    rw [if_pos (by simp [hprobed])]
    exact ⟨rfl, halike⟩

namespace Memory.Alike

variable {first second : Memory}

theorem guided (halike : Memory.Alike c prober verifier known first second) :
    (first.store.cache c).prober = prober := by
  rw [halike.store, withProber, cache_updateCache_self _ halike.held]

theorem verifier_eq (halike : Memory.Alike c prober verifier known first second) :
    (first.store.cache c).verifier = verifier := by
  rw [halike.store, withProber, cache_updateCache_self _ halike.held]
  exact halike.verifier

/-- Records of the log make no difference. -/
theorem logged (halike : Memory.Alike c prober verifier known first second) {first' second' : Memory}
    (hfirst : SameButLog first first') (hsecond : SameButLog second second') :
    Memory.Alike c prober verifier known first' second' where
  store := by rw [hfirst.store, hsecond.store, halike.store]
  supply := by rw [hfirst.supply, hsecond.supply, halike.supply]
  unguided := by rw [hsecond.store, halike.unguided]
  verifier := by rw [hsecond.store, halike.verifier]
  probed hknown := by rw [hsecond.store, halike.probed hknown]
  held := by
    rw [hsecond.store]
    exact halike.held

end Memory.Alike

/-- A lookup leaves a record and searches, with the collaborators of the cache. -/
theorem dialogue_apply (host : Host) (memory : Memory) (name value : String) :
    ∃ logged, SameButLog memory logged ∧
      Lookup.dialogue host c name value none none (memory, []) =
        Lookup.search host c name value (memory.store.cache c).prober
          ((memory.store.cache c).verifier.getD .trusting) Lookup.maxAttempts (logged, []) :=
  ⟨{ memory with log := _ :: memory.log }, ⟨rfl, rfl⟩, rfl⟩

theorem respects_dialogue (hgiven : ∀ number, given ≠ .custom number) (name value : String) :
    Respects (Memory.Alike c (some p) (some given) True)
      (Lookup.dialogue host c name value none none).toOp := by
  intro first second halike
  obtain ⟨logged, hlogged, hfirst⟩ := dialogue_apply (c := c) host first name value
  obtain ⟨logged', hlogged', hsecond⟩ := dialogue_apply (c := c) host second name value
  apply EndAlike.toOp
  rw [hfirst, hsecond, halike.guided, halike.verifier_eq, halike.unguided, halike.verifier]
  exact search_alike hgiven (halike.logged hlogged hlogged') name value 1 1

theorem respects_foundName (found : Option DeviceId) :
    Respects (Memory.Alike c prober verifier known) (Lookup.foundName found) := by
  cases found with
  | none => exact .pure none
  | some d => exact respects_look_bind (fun _ => rfl) fun device => .pure _

/-! ## The first search -/

/-- What fills an empty cache: probing with the inventory leads from one state to the other. -/
structure Filling (inventory : Inventory) (c : CacheId) (start filled : Memory) : Prop where
  probe : inventory.probe c start = .ok () filled
  empty : (start.store.cache c).heads = []
  unprobed : (start.store.cache c).probed = false
  probed : (filled.store.cache c).probed = true

/-- The first state has the cache still to be filled, by its own prober; in the second one it was
filled and has no prober. -/
structure Memory.Awaits (inventory : Inventory) (c : CacheId) (given : Verifier)
    (start filled first second : Memory) : Prop where
  alike : Memory.Alike c (some (.inventory inventory)) (some given) False first start
  second : SameButLog filled second

variable {inventory : Inventory} {start filled first second : Memory}

theorem Memory.Awaits.logged (hawaits : Memory.Awaits inventory c given start filled first second)
    {first' second' : Memory} (hfirst : SameButLog first first')
    (hsecond : SameButLog second second') :
    Memory.Awaits inventory c given start filled first' second' :=
  ⟨hawaits.alike.logged hfirst (.refl start), hawaits.second.trans hsecond⟩

theorem Memory.Awaits.empty (hawaits : Memory.Awaits inventory c given start filled first second)
    (hfilling : Filling inventory c start filled) : (first.store.cache c).heads = [] := by
  rw [hawaits.alike.store, heads_withProber, hfilling.empty]

theorem Memory.Awaits.unprobed
    (hawaits : Memory.Awaits inventory c given start filled first second)
    (hfilling : Filling inventory c start filled) : (first.store.cache c).probed = false := by
  obtain ⟨other, hcache⟩ :=
    @exists_cache_withProber c (some (.inventory inventory)) start.store c
  rw [hawaits.alike.store, hcache]
  exact hfilling.unprobed

/-- Filling the cache that waits for it makes the states alike. -/
theorem Memory.Awaits.fill (hawaits : Memory.Awaits inventory c given start filled first second)
    (hfilling : Filling inventory c start filled) :
    ∃ after, inventory.probe c first = .ok () after ∧
      Memory.Alike c (some (.inventory inventory)) (some given) True after second := by
  have hends := respects_inventory inventory c first start hawaits.alike
  rw [hfilling.probe] at hends
  unfold EndAlike at hends
  split at hends
  · next _ after _ _ hfirst hsecond =>
    cases hsecond
    obtain ⟨-, halike⟩ := hends
    refine ⟨after, hfirst, ?_⟩
    have hknown : Memory.Alike c (some (.inventory inventory)) (some given) True after filled :=
      { halike with probed := fun _ => hfilling.probed }
    exact hknown.logged (.refl after) hawaits.second
  · next hsecond => cases hsecond
  · exact hends.elim

theorem ofOp_bind_of_ok {α β : Type} {operation : Op α} {next : α → Dialogue β}
    {s : Memory × List Call} {result : α} {after : Memory}
    (hrun : operation s.1 = .ok result after) :
    (Dialogue.ofOp operation >>= next) s = next result (after, s.2) := by
  change EStateM.bind (Dialogue.ofOp operation) next s = _
  unfold EStateM.bind Dialogue.ofOp
  rw [hrun]

theorem attempt_empty {s : Memory × List Call} (hempty : (s.1.store.cache c).heads = [])
    (name value : String) : Lookup.attempt host c name value given s = .ok none s := by
  have hbest : Lookup.bestMatch s.1.store c name value = .ok none := by
    rw [Lookup.bestMatch, headOf?, hempty]
    rfl
  have hcandidate : Lookup.candidate c name value s.1 = .ok none s.1 := by
    rw [Lookup.candidate, Op.bind_of_ok (Op.look_apply _ _), hbest]
    rfl
  rw [Lookup.attempt, ofOp_bind_of_ok hcandidate]
  rfl

/-- In an empty cache that was not probed, a search fills it first. -/
theorem search_empty (host : Host) (p : Prober) (given : Verifier) {s : Memory × List Call}
    (hempty : (s.1.store.cache c).heads = [])
    (hunprobed : (s.1.store.cache c).probed = false) (name value : String) (further : Nat) :
    ∃ logged calls, SameButLog s.1 logged ∧
      Lookup.search host c name value (some p) given (further + 2) s =
        (do
          Dialogue.ofOp (p.probe host c)
          Dialogue.record .probed
          Lookup.search host c name value (some p) given (further + 1)) (logged, calls) := by
  let message := "No match for " ++ Lookup.pairText name value ++ ", probing all devices"
  refine ⟨{ s.1 with log := ⟨.debug, Source.resolve.logger, message⟩ :: s.1.log },
    .probing :: s.2, ⟨rfl, rfl⟩, ?_⟩
  rw [Lookup.search]
  change EStateM.bind (Lookup.attempt host c name value given) _ s = _
  unfold EStateM.bind
  rw [attempt_empty hempty]
  change (if (s.1.store.cache c).probed || decide (further + 1 = 0) then
    (pure none : Dialogue (Option DeviceId)) else _) s = _
  rw [if_neg (by simp [hunprobed])]
  rfl

/-- The first lookup fills the cache, where the other one was filled before, and both end alike. -/
theorem first_dialogue (hgiven : ∀ number, given ≠ .custom number)
    (hfilling : Filling inventory c start filled)
    (hawaits : Memory.Awaits inventory c given start filled first second) (name value : String) :
    EndAlike (Memory.Alike c (some (.inventory inventory)) (some given) True)
      ((Lookup.dialogue host c name value none none).toOp first)
      ((Lookup.dialogue host c name value none none).toOp second) := by
  obtain ⟨logged, hlogged, hfirst⟩ := dialogue_apply (c := c) host first name value
  obtain ⟨logged', hlogged', hsecond⟩ := dialogue_apply (c := c) host second name value
  obtain ⟨ready, calls, hready, hsearch⟩ := search_empty host (.inventory inventory) given
    (s := (logged, [])) (by rw [hlogged.store, hawaits.empty hfilling])
    (by rw [hlogged.store, hawaits.unprobed hfilling]) name value 0
  obtain ⟨after, hprobe, halike⟩ :=
    (hawaits.logged (hlogged.trans hready) hlogged').fill hfilling
  have hunguided : (second.store.cache c).prober = none := by
    rw [← hlogged'.store, halike.unguided]
  have hverifier : (second.store.cache c).verifier = some given := by
    rw [← hlogged'.store, halike.verifier]
  apply EndAlike.toOp
  rw [hfirst, hsecond, hawaits.alike.guided, hawaits.alike.verifier_eq, hunguided, hverifier]
  change EndAlike _ (Lookup.search host c name value _ given (0 + 2) (logged, [])) _
  rw [hsearch, ofOp_bind_of_ok hprobe]
  exact search_alike hgiven halike name value 0 1

end DeviceTags
