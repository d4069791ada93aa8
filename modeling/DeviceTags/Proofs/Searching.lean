import DeviceTags.Proofs.Lookup.Candidate
import DeviceTags.Proofs.Probing

/-!
# Lookups with the collaborators of the package

A lookup calls a verifier and perhaps a prober. With those that the package brings along, and any
file system below them, it advances the store, and the device that it gives points to the cache and
carries the pair by then.
-/

namespace DeviceTags

open Store (Sound)

/-- A prober that the package brings along. -/
def Prober.IsPackaged : Prober → Prop
  | .nothing | .inventory _ => True
  | .custom _ => False

/-- A verifier that the package brings along. -/
def Verifier.IsPackaged : Verifier → Prop
  | .trusting | .paths _ => True
  | .custom _ => False

/-- Every cache that has collaborators of its own has packaged ones. -/
structure Store.Packaged (store : Store) : Prop where
  prober : ∀ c, ∀ prober ∈ (store.cache c).prober, prober.IsPackaged
  verifier : ∀ c, ∀ verifier ∈ (store.cache c).verifier, verifier.IsPackaged

theorem Store.Packaged.of_same {before after : Store} (hpackaged : before.Packaged)
    (hsame : SameCollaborators before after) : after.Packaged where
  prober c := by
    rw [hsame.prober]
    exact hpackaged.prober c
  verifier c := by
    rw [hsame.verifier]
    exact hpackaged.verifier c

section Collaborators

variable {memory : Memory} {c : CacheId}

theorem advances_prober (host : Host) {prober : Prober} (hpackaged : prober.IsPackaged)
    (hsound : memory.store.Sound) (hc : memory.store.caches.Holds c) :
    Advances Memory.store (prober.probe host c) memory fun _ _ => True := by
  cases prober with
  | nothing =>
    have hmarked := advances_edit (·.markProbed c) hsound (Store.sameIndex_markProbed c)
      sameCollaborators_markProbed (Store.sameAliases_markProbed c)
    exact hmarked.mono fun _ _ _ => trivial
  | inventory declared => exact advances_inventory declared hsound hc
  | custom number => exact hpackaged.elim

/-- A packaged verifier answers with the device that it is asked about, if with any. -/
theorem advances_verifier (host : Host) {verifier : Verifier} (hpackaged : verifier.IsPackaged)
    (hsound : memory.store.Sound) (d : Option DeviceId) :
    Advances Memory.store (verifier.verify host c d) memory
      fun answer after => ∀ e ∈ answer, d = some e ∧ Store.SameIndex memory.store after.store := by
  cases verifier with
  | trusting => exact .pure hsound fun e he => ⟨he, .refl _⟩
  | paths root =>
    cases d with
    | none => exact .throw hsound nofun
    | some d =>
      refine (advances_verifyPath host root d hsound).mono fun answer after hanswer e he => ?_
      exact ⟨congrArg some (hanswer e he).1, (hanswer e he).2⟩
  | custom number => exact hpackaged.elim

end Collaborators

/-! ## Searching -/

section Search

variable {α : Type} {state : Memory × List Call} {c : CacheId}

/-- The store that a conversation is about. -/
def Dialogue.store (state : Memory × List Call) : Store := state.1.store

theorem Advances.ofOp {operation : Op α} {result : α → Memory → Prop}
    (hadvances : Advances Memory.store operation state.1 result) :
    Advances Dialogue.store (Dialogue.ofOp operation) state
      fun value after => result value after.1 :=
  Does.ofOp hadvances

theorem Advances.ofLook_bind {γ : Type} {read : Store → γ} {next : γ → Dialogue α}
    {result : α → Memory × List Call → Prop}
    (hnext : Advances Dialogue.store (next (read state.1.store)) state result) :
    Advances Dialogue.store (Dialogue.ofOp (Op.look read) >>= next) state result := hnext

theorem advances_record (hsound : state.1.store.Sound) (call : Call) :
    Advances Dialogue.store (Dialogue.record call) state fun _ after => after.1 = state.1 :=
  have hkept : state.1.store.Advance state.1.store := .refl hsound
  ⟨hkept, rfl⟩

theorem advances_candidate {memory : Memory} (hsound : memory.store.Sound) (name value : String) :
    Advances Memory.store (Lookup.candidate c name value) memory
      fun found after => memory = after ∧
        ∀ d, found = some (some d) → (memory.store.device d).cache = some c := by
  refine (Lookup.does_candidate fun t ht =>
    (Lookup.owner_of_sound hsound ht).imp fun _ hd => hd.1).weaken fun found after hfound => ?_
  obtain ⟨rfl, ⟨rfl, -⟩ | ⟨t, d, rfl, hleads⟩⟩ := hfound
  · exact ⟨.refl hsound, rfl, nofun⟩
  · refine ⟨.refl hsound, rfl, fun e he => ?_⟩
    cases he
    obtain ⟨e, howner, hcache⟩ := Lookup.owner_of_sound hsound hleads.mem
    rw [hleads.owner] at howner
    cases howner
    exact hcache

theorem advances_nameOf {memory : Memory} (hsound : memory.store.Sound) (d : Option DeviceId) :
    Advances Memory.store (Lookup.nameOf d) memory fun _ _ => True := by
  cases d with
  | none => exact .throw hsound nofun
  | some d =>
    refine Advances.look_bind ?_
    exact .pure hsound trivial

/-- What a lookup gives is a device that points to the cache and carries the pair. -/
def Lookup.Gives (c : CacheId) (name value : String) (found : Option DeviceId) (store : Store) :
    Prop :=
  ∀ d ∈ found, (store.device d).cache = some c ∧ store.hasPair d name value = true

theorem Lookup.gives_none (name value : String) (store : Store) :
    Lookup.Gives c name value none store := nofun

theorem advances_attempt (host : Host) (name value : String) {verifier : Verifier}
    (hpackaged : verifier.IsPackaged) (hsound : state.1.store.Sound) :
    Advances Dialogue.store (Lookup.attempt host c name value verifier) state
      fun found after => Lookup.Gives c name value found after.1.store := by
  unfold Lookup.attempt
  refine (advances_candidate hsound name value).ofOp.bind fun found looked hlooked hfound => ?_
  obtain ⟨hkept, hpointed⟩ := hfound
  cases found with
  | none => exact .pure hlooked.sound (Lookup.gives_none name value _)
  | some owner =>
    refine (advances_record hlooked.sound _).bind fun _ asked hasked hsame => ?_
    refine (advances_verifier host hpackaged hasked.sound owner).ofOp.bind
      fun answer verified hverified hanswer => ?_
    refine (advances_record hverified.sound _).bind fun _ answered hanswered hverdict => ?_
    refine Advances.ofOp (?_ : Advances Memory.store _ _
      fun found after => Lookup.Gives c name value found after.store)
    cases answer with
    | none =>
      refine (advances_nameOf hanswered.sound owner).bind fun _ _ hnamed _ => ?_
      exact (advances_log hnamed.sound _ _ _).bind fun _ _ hlogged _ =>
        .pure hlogged.sound (Lookup.gives_none name value _)
    | some d =>
      obtain ⟨rfl, hindex⟩ := hanswer d rfl
      -- The device pointed to the cache when it was asked about, and has not left it since.
      have hcache : (answered.1.store.device d).cache = some c := by
        rw [hverdict, hindex.deviceCache, hsame, ← hkept]
        exact hpointed d rfl
      refine Advances.look_bind (Advances.look_bind ?_)
      split
      · next hpair =>
        refine (advances_log hanswered.sound _ _ _).bind fun _ logged hlogged hstore => ?_
        refine .pure hlogged.sound fun e he => ?_
        cases he
        rw [hstore]
        exact ⟨hcache, hpair⟩
      · exact (advances_log hanswered.sound _ _ _).bind fun _ _ hlogged _ =>
          .pure hlogged.sound (Lookup.gives_none name value _)

theorem advances_search (host : Host) (name value : String) {prober : Option Prober}
    {verifier : Verifier} (hprober : ∀ p ∈ prober, p.IsPackaged) (hverifier : verifier.IsPackaged)
    (further : Nat) (hsound : state.1.store.Sound) (hc : state.1.store.caches.Holds c) :
    Advances Dialogue.store (Lookup.search host c name value prober verifier further) state
      fun found after => Lookup.Gives c name value found after.1.store := by
  induction further generalizing state with
  | zero => exact .pure hsound (Lookup.gives_none name value _)
  | succ further ih =>
    unfold Lookup.search
    refine (advances_attempt host name value hverifier hsound).bind fun found tried htried hgives => ?_
    cases found with
    | some d => exact .pure htried.sound hgives
    | none =>
      cases prober with
      | none => exact .pure htried.sound hgives
      | some prober =>
        refine Advances.ofLook_bind ?_
        split
        · exact .pure htried.sound hgives
        · refine (advances_log htried.sound _ _ _).ofOp.bind fun _ logged hlogged _ => ?_
          refine (advances_record hlogged.sound _).bind fun _ probing hprobing _ => ?_
          have hheld := ((htried.trans hlogged).trans hprobing).progress.lasting
          refine (advances_prober host (hprober prober rfl) hprobing.sound
            (hheld.holds_cache hc)).ofOp.bind fun _ probed hprobed _ => ?_
          refine (advances_record hprobed.sound _).bind fun _ noted hnoted _ => ?_
          refine ih hnoted.sound ?_
          exact (hheld.trans (hprobed.trans hnoted).progress.lasting).holds_cache hc

end Search

section Find

variable {memory : Memory}

theorem Advances.toOp {α : Type} {dialogue : Dialogue α} {result : α → Memory → Prop}
    (hadvances : Advances Dialogue.store dialogue (memory, [])
      fun value after => result value after.1) :
    Advances Memory.store dialogue.toOp memory result := by
  unfold Advances Does at *
  unfold Dialogue.toOp
  split at hadvances
  · next hrun =>
    rw [hrun]
    exact hadvances
  · next hrun =>
    rw [hrun]
    exact hadvances

theorem advances_dialogue (host : Host) {c : CacheId} (name value : String)
    {prober : Option Prober} {verifier : Option Verifier} (hsound : memory.store.Sound)
    (hc : memory.store.caches.Holds c)
    (hprober : ∀ p ∈ prober <|> (memory.store.cache c).prober, p.IsPackaged)
    (hverifier : ∀ v ∈ verifier <|> (memory.store.cache c).verifier, v.IsPackaged) :
    Advances Memory.store (Lookup.dialogue host c name value prober verifier).toOp memory
      fun found after => Lookup.Gives c name value found after.store := by
  have hchosen : ((verifier <|> (memory.store.cache c).verifier).getD .trusting).IsPackaged := by
    cases hgiven : verifier <|> (memory.store.cache c).verifier with
    | none => exact trivial
    | some given => exact hverifier given hgiven
  apply Advances.toOp
  unfold Lookup.dialogue
  refine Advances.ofLook_bind ?_
  refine (advances_log hsound _ _ _).ofOp.bind fun _ logged hlogged _ => ?_
  exact advances_search host name value hprober hchosen _ hlogged.sound
    (hlogged.progress.lasting.holds_cache hc)

theorem kind_requireArguments (c : Option CacheId) (name value : Option String) (failure : Failure)
    (hfailed : Lookup.requireArguments c name value = .error failure) :
    failure.kind ≠ .memory := by
  unfold Lookup.requireArguments at hfailed
  split at hfailed <;> cases hfailed
  all_goals simp [Failure.kind]

theorem advances_find (host : Host) {c : Option CacheId} (name value : Option String)
    {prober : Option Prober} {verifier : Option Verifier} (hsound : memory.store.Sound)
    (hpackaged : memory.store.Packaged) (hc : ∀ k ∈ c, memory.store.caches.Holds k)
    (hprober : ∀ p ∈ prober, p.IsPackaged) (hverifier : ∀ v ∈ verifier, v.IsPackaged) :
    Advances Memory.store (Lookup.find host c name value prober verifier) memory
      fun _ _ => True := by
  unfold Lookup.find
  refine (advances_checked hsound (kind_requireArguments c name value)).bind fun given _ _ hgiven => ?_
  obtain ⟨hcheck, rfl⟩ := hgiven
  obtain ⟨k, n, v⟩ := given
  have hk : memory.store.caches.Holds k := by
    refine hc k ?_
    unfold Lookup.requireArguments at hcheck
    split at hcheck <;> cases hcheck
    rfl
  refine (advances_dialogue host n v hsound hk ?_ ?_).mono fun _ _ _ => trivial
  · cases prober with
    | some p => exact hprober
    | none => exact hpackaged.prober k
  · cases verifier with
    | some given => exact hverifier
    | none => exact hpackaged.verifier k

theorem kind_parse (token : Option String) (failure : Failure)
    (hfailed : Token.parse token = .error failure) : failure.kind ≠ .memory := by
  unfold Token.parse at hfailed
  repeat' split at hfailed
  all_goals cases hfailed
  all_goals simp [Failure.kind]

theorem advances_parseToken (hsound : memory.store.Sound) (token : Option String) :
    Advances Memory.store (Lookup.parseToken token) memory fun _ _ => True := by
  unfold Lookup.parseToken
  refine (advances_log hsound _ _ _).bind fun _ logged hlogged _ => ?_
  exact (advances_checked hlogged.sound (kind_parse token)).mono fun _ _ _ => trivial

theorem advances_deviceName (host : Host) {c : Option CacheId} (token value : Option String)
    (hsound : memory.store.Sound) (hpackaged : memory.store.Packaged)
    (hc : ∀ k ∈ c, memory.store.caches.Holds k) :
    Advances Memory.store (Lookup.deviceName host c token value) memory fun _ _ => True := by
  have hfind : ∀ (k : CacheId) (n v : Option String) {now : Memory}, c = some k →
      memory.store.Advance now.store →
      Advances Memory.store (Lookup.find host (some k) n v none none) now fun _ _ => True := by
    intro k n v now hk hnow
    refine advances_find host n v hnow.sound (hpackaged.of_same hnow.collaborators) ?_ (by simp)
      (by simp)
    simpa using hnow.progress.lasting.holds_cache (hc k hk)
  have hname : ∀ (d : DeviceId) {now : Memory}, now.store.Sound →
      Advances Memory.store (do return some (← Op.device d).name : Op (Option String)) now
        fun _ _ => True :=
    fun d _ hnow => (advances_look hnow _).bind fun _ _ hread _ => .pure hread.sound trivial
  unfold Lookup.deviceName
  cases c with
  | none => exact .throw hsound nofun
  | some k =>
    dsimp only
    split
    · exact .throw hsound nofun
    · exact .throw hsound nofun
    · next text htext =>
      cases value with
      | some v =>
        refine (hfind k _ _ rfl (.refl hsound)).bind fun found after hafter _ => ?_
        cases found with
        | none => exact .pure hafter.sound trivial
        | some d => exact hname d hafter.sound
      | none =>
        dsimp only
        split
        · refine (advances_parseToken hsound _).bind fun pair parsed hparsed _ => ?_
          refine (hfind k _ _ rfl hparsed).bind fun found after hafter _ => ?_
          cases found with
          | none => exact .pure hafter.sound trivial
          | some d => exact hname d hafter.sound
        · exact .pure hsound trivial

end Find

end DeviceTags
