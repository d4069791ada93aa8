import DeviceTags.Proofs.Twin.Lookups

/-!
# Inquiries of a cache

An inquiry is a call of one of the two lookups with the collaborators of the cache. It passes its
checks or not, and what it does before it looks into the index is one record of the log at most. The
cache that waits to be filled and the cache that was filled at once give the same answers: an inquiry
that fails before the search leaves both as they are, and the first one that searches fills the one
and then finds both alike.
-/

namespace DeviceTags

open Store

/-- A call of a lookup: for the device of a pair, or for the name of the device of a token. -/
inductive Inquiry where
  | find (name value : Option String)
  | deviceName (token value : Option String)

namespace Inquiry

variable {host : Host} {c : CacheId} {p : Prober} {given : Verifier} {inventory : Inventory}

/-- What an inquiry answers: the name of a device, if there is one. -/
def answer (host : Host) (c : CacheId) : Inquiry → Op (Option String)
  | .find name value => do Lookup.foundName (← Lookup.find host (some c) name value none none)
  | .deviceName token value => Lookup.deviceName host (some c) token value

/-! ## What an inquiry looks for -/

/-- The pair that a lookup looks for, if its arguments pass. -/
def pairFor : Option String → Option String → Except Failure (String × String)
  | none, _ => .error .tagTypeRequired
  | some name, value =>
    if name = "" then .error .tagTypeRequired
    else
      match value with
      | none => .error .tagValueRequired
      | some value => .ok (name, value)

/-- Where a token with or without a value leads: to a pair that is looked for, or to a name that
stands for itself. -/
def aimOf (token : String) : Option String → Except Failure (String ⊕ String × String)
  | some value => .ok (.inr (token, value))
  | none =>
    if token.toList.contains '=' then
      (Token.parse (some token)).bind fun pair =>
        (pairFor (some pair.1) (some pair.2)).map .inr
    else .ok (.inl token)

/-- Where an inquiry leads if its arguments pass. -/
def aim : Inquiry → Except Failure (String ⊕ String × String)
  | .find name value => (pairFor name value).map .inr
  | .deviceName none _ => .error .tokenRequired
  | .deviceName (some token) value =>
    if token = "" then .error .tokenRequired else aimOf token value

/-- Whether an inquiry is looked up in the index. -/
def searches (inquiry : Inquiry) : Bool :=
  match inquiry.aim with
  | .ok (.inr _) => true
  | _ => false

theorem exists_aim_of_searches {inquiry : Inquiry} (hsearch : inquiry.searches = true) :
    ∃ pair, inquiry.aim = .ok (.inr pair) := by
  unfold searches at hsearch
  split at hsearch
  · next pair haim => exact ⟨pair, haim⟩
  · cases hsearch

/-- The record that an inquiry leaves before anything else. -/
def note : Inquiry → Op Unit
  | .deviceName (some token) none =>
    if token.toList.contains '=' then
      Op.log .debug .tag ("Trying to parse " ++ Text.quoted token ++ " as a tag")
    else pure ()
  | _ => pure ()

/-- The name that an aim leads to. -/
def reach (host : Host) (c : CacheId) : String ⊕ String × String → Op (Option String)
  | .inl device => pure (some device)
  | .inr (name, value) => do Lookup.foundName (← (Lookup.dialogue host c name value none none).toOp)

theorem requireArguments_eq (name value : Option String) :
    Lookup.requireArguments (some c) name value =
      (pairFor name value).map fun pair => (c, pair.1, pair.2) := by
  cases name with
  | none => rfl
  | some name =>
    by_cases hname : name = ""
    · subst hname
      rfl
    · cases value with
      | none =>
        rw [pairFor, if_neg hname]
        unfold Lookup.requireArguments
        split <;> simp_all [Except.map]
      | some value =>
        rw [pairFor, if_neg hname]
        exact Lookup.requireArguments_eq_ok hname

theorem find_eq (name value : Option String) :
    (do Lookup.foundName (← Lookup.find host (some c) name value none none)) = (do
      reach host c (← Tagging.checked ((pairFor name value).map .inr))) := by
  unfold Lookup.find
  rw [requireArguments_eq]
  cases pairFor name value with
  | error failure => rfl
  | ok pair => rfl

/-- An inquiry leaves its record, checks its arguments and goes where they lead. -/
theorem answer_eq (inquiry : Inquiry) : inquiry.answer host c = (do
    inquiry.note
    reach host c (← Tagging.checked inquiry.aim)) := by
  cases inquiry with
  | find name value => exact find_eq name value
  | deviceName token value =>
    cases token with
    | none => rfl
    | some token =>
      by_cases htoken : token = ""
      · subst htoken
        cases value <;> rfl
      · rw [aim, if_neg htoken, answer]
        cases value with
        | some value =>
          rw [Lookup.deviceName_given htoken, find_eq, pairFor, if_neg htoken]
          rfl
        | none =>
          rw [Lookup.deviceName_token htoken, aimOf, note]
          split
          · unfold Lookup.parseToken
            simp only [find_eq]
            cases Token.parse (some token) with
            | error failure => rfl
            | ok pair => rfl
          · rfl

theorem exists_note (inquiry : Inquiry) (memory : Memory) :
    ∃ logged, SameButLog memory logged ∧ inquiry.note memory = .ok () logged := by
  unfold note
  split
  · split
    · exact ⟨{ memory with log := _ :: memory.log }, ⟨rfl, rfl⟩, rfl⟩
    · exact ⟨memory, .refl memory, rfl⟩
  · exact ⟨memory, .refl memory, rfl⟩

/-- An inquiry leaves at most a record before its arguments are checked. -/
theorem answer_apply (host : Host) (c : CacheId) (inquiry : Inquiry) (memory : Memory) :
    ∃ logged, SameButLog memory logged ∧ inquiry.answer host c memory =
      (do reach host c (← Tagging.checked inquiry.aim)) logged := by
  obtain ⟨logged, hlogged, hnote⟩ := inquiry.exists_note memory
  exact ⟨logged, hlogged, by rw [answer_eq, Op.bind_of_ok hnote]⟩

/-! ## Two caches -/

section Twins

variable {start filled first second : Memory}

/-- An inquiry that does not search ends in the same way whatever the cache holds. -/
theorem answer_unsearched (host : Host) (c : CacheId) {inquiry : Inquiry}
    (hsearch : inquiry.searches = false)
    {related : Memory → Memory → Prop}
    (hlogged : ∀ first' second', SameButLog first first' → SameButLog second second' →
      related first' second') :
    EndAlike related (inquiry.answer host c first) (inquiry.answer host c second) := by
  obtain ⟨logged, hfirst, hrun⟩ := answer_apply host c inquiry first
  obtain ⟨logged', hsecond, hrun'⟩ := answer_apply host c inquiry second
  rw [hrun, hrun']
  unfold searches at hsearch
  cases haim : inquiry.aim with
  | error failure => exact ⟨rfl, hlogged _ _ hfirst hsecond⟩
  | ok aim =>
    cases aim with
    | inl device => exact ⟨rfl, hlogged _ _ hfirst hsecond⟩
    | inr pair =>
      rw [haim] at hsearch
      cases hsearch

/-- An inquiry that searches ends as its search does. -/
theorem answer_searched {inquiry : Inquiry} {name value : String}
    (haim : inquiry.aim = .ok (.inr (name, value)))
    (hdialogue : ∀ first' second', SameButLog first first' → SameButLog second second' →
      EndAlike (Memory.Alike c (some p) (some given) True)
        ((Lookup.dialogue host c name value none none).toOp first')
        ((Lookup.dialogue host c name value none none).toOp second')) :
    EndAlike (Memory.Alike c (some p) (some given) True) (inquiry.answer host c first)
      (inquiry.answer host c second) := by
  obtain ⟨logged, hfirst, hrun⟩ := answer_apply host c inquiry first
  obtain ⟨logged', hsecond, hrun'⟩ := answer_apply host c inquiry second
  rw [hrun, hrun', haim]
  exact (hdialogue _ _ hfirst hsecond).bind (fun found => respects_foundName found) fun _ _ h => h

/-- Once the cache is probed, every inquiry ends alike. -/
theorem respects_answer (host : Host) (hgiven : ∀ number, given ≠ .custom number) (inquiry : Inquiry) :
    Respects (Memory.Alike c (some p) (some given) True) (inquiry.answer host c) := by
  intro first second halike
  cases hsearch : inquiry.searches with
  | false =>
    exact answer_unsearched host c hsearch fun _ _ hfirst hsecond => halike.logged hfirst hsecond
  | true =>
    obtain ⟨⟨name, value⟩, haim⟩ := exists_aim_of_searches hsearch
    exact answer_searched haim fun _ _ hfirst hsecond =>
      respects_dialogue hgiven name value _ _ (halike.logged hfirst hsecond)

/-- The first inquiry that searches fills the cache that waits for it. -/
theorem first_answer (host : Host) (hgiven : ∀ number, given ≠ .custom number)
    (hfilling : Filling inventory c start filled)
    (hawaits : Memory.Awaits inventory c given start filled first second) {inquiry : Inquiry}
    (hsearch : inquiry.searches = true) :
    EndAlike (Memory.Alike c (some (.inventory inventory)) (some given) True)
      (inquiry.answer host c first) (inquiry.answer host c second) := by
  obtain ⟨⟨name, value⟩, haim⟩ := exists_aim_of_searches hsearch
  exact answer_searched haim fun _ _ hfirst hsecond =>
    first_dialogue hgiven hfilling (hawaits.logged hfirst hsecond) name value

end Twins

/-! ## Many inquiries -/

/-- What an operation comes to, and the state after it. -/
def settle {α : Type} (operation : Op α) (memory : Memory) : Except Failure α × Memory :=
  match operation memory with
  | .ok value after => (.ok value, after)
  | .error failure after => (.error failure, after)

/-- What inquiries come to, one after the other, and the state after the last. -/
def answers (host : Host) (c : CacheId) :
    List Inquiry → Memory → List (Except Failure (Option String)) × Memory
  | [], memory => ([], memory)
  | inquiry :: rest, memory =>
    let (result, after) := settle (inquiry.answer host c) memory
    let (results, last) := answers host c rest after
    (result :: results, last)

theorem settle_alike {α : Type} {related : Memory → Memory → Prop} {operation : Op α}
    {first second : Memory} (hends : EndAlike related (operation first) (operation second)) :
    (settle operation first).1 = (settle operation second).1 ∧
      related (settle operation first).2 (settle operation second).2 := by
  unfold EndAlike at hends
  unfold settle
  split at hends
  · next hfirst hsecond =>
    rw [hfirst, hsecond]
    exact ⟨congrArg Except.ok hends.1, hends.2⟩
  · next hfirst hsecond =>
    rw [hfirst, hsecond]
    exact ⟨congrArg Except.error hends.1, hends.2⟩
  · exact hends.elim

section Runs

variable {start filled first second : Memory}

theorem answers_alike (host : Host) (hgiven : ∀ number, given ≠ .custom number)
    (inquiries : List Inquiry) (halike : Memory.Alike c (some p) (some given) True first second) :
    (answers host c inquiries first).1 = (answers host c inquiries second).1 ∧
      Memory.Alike c (some p) (some given) True (answers host c inquiries first).2
        (answers host c inquiries second).2 := by
  induction inquiries generalizing first second with
  | nil => exact ⟨rfl, halike⟩
  | cons inquiry rest ih =>
    obtain ⟨hresult, hafter⟩ :=
      settle_alike (respects_answer host hgiven inquiry first second halike)
    obtain ⟨hresults, hlast⟩ := ih hafter
    exact ⟨congrArg₂ List.cons hresult hresults, hlast⟩

/-- The cache that waits to be filled and the one that was filled at once give the same answers, and
after the first search both are alike. -/
theorem answers_awaiting (host : Host) (hgiven : ∀ number, given ≠ .custom number)
    (hfilling : Filling inventory c start filled) (inquiries : List Inquiry)
    (hawaits : Memory.Awaits inventory c given start filled first second) :
    (answers host c inquiries first).1 = (answers host c inquiries second).1 ∧
      (inquiries.any searches → Memory.Alike c (some (.inventory inventory)) (some given) True
        (answers host c inquiries first).2 (answers host c inquiries second).2) := by
  induction inquiries generalizing first second with
  | nil => exact ⟨rfl, fun hnone => absurd hnone (by simp)⟩
  | cons inquiry rest ih =>
    cases hsearch : inquiry.searches with
    | true =>
      obtain ⟨hresult, hafter⟩ :=
        settle_alike (first_answer host hgiven hfilling hawaits hsearch)
      obtain ⟨hresults, hlast⟩ := answers_alike host hgiven rest hafter
      exact ⟨congrArg₂ List.cons hresult hresults, fun _ => hlast⟩
    | false =>
      obtain ⟨hresult, hafter⟩ := settle_alike (answer_unsearched host c hsearch
        fun _ _ hfirst hsecond => hawaits.logged hfirst hsecond)
      obtain ⟨hresults, hlast⟩ := ih hafter
      refine ⟨congrArg₂ List.cons hresult hresults, fun hany => hlast ?_⟩
      simpa [hsearch] using hany

end Runs

end Inquiry

end DeviceTags
