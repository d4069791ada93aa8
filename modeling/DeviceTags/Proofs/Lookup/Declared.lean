import DeviceTags.Proofs.Config.Building
import DeviceTags.Proofs.Inventory.Winner
import DeviceTags.Proofs.Lookup.Settled

/-!
# Lookups in the cache of a configuration

Where every candidate is trusted, a lookup gives the device of the leading entry. In the cache that a
configuration gave, that is the declared device that wins: at once where the cache was filled before,
and after one run of the prober where it is empty still.
-/

namespace DeviceTags

open Store

variable {host : Host} {c : CacheId} {name value : String} {before : Memory} {calls : List Call}

namespace Lookup

/-- An empty cache has no entries. -/
theorem matching_of_reflects_nil {inventory : Inventory} {store : Store}
    (hreflects : Reflects inventory c [] store) (name value : String) :
    store.matching c name value = [] := by
  have hentries : store.entries c name = [] := by
    have hcolumn := hreflects.columns name
    simpa [shownEntries, Inventory.column, mergeEntries] using hcolumn
  rw [matching, hentries]
  rfl

/-- A search in an empty cache fills it and finds what a look into the full one finds. -/
theorem does_search_filling {inventory : Inventory} (hvalid : ∀ spec ∈ inventory.devices, spec.Valid)
    (hreflects : Reflects inventory c [] before.store) (hsupply : before.supply = .unlimited)
    (hunprobed : (before.store.cache c).probed = false) :
    Does (search host c name value (some (.inventory inventory)) .trusting maxAttempts)
      (before, calls)
      (fun found after => after.1.supply = .unlimited ∧
        Reflects inventory c inventory.devices after.1.store ∧
        after.1.store.Answers c name value found)
      fun _ _ => False := by
  unfold search maxAttempts
  have htrusts := Verifier.accepts_trusting host c
  refine (does_attempt_accepting htrusts (hreflects.sound.clean hreflects.registered)).andThen ?_
  intro found after hfound
  obtain ⟨now, called⟩ := after
  obtain ⟨hsame, hanswer⟩ := hfound
  rw [Answers.eq_def, matching_of_reflects_nil hreflects] at hanswer
  cases found with
  | some d =>
    obtain ⟨t, hleads⟩ := hanswer
    obtain ⟨front, back, hplace, -⟩ := hleads.place
    simp at hplace
  | none =>
    have hstill : (now.store.cache c).probed = false := by
      rw [hsame.store]
      exact hunprobed
    refine .ofLook_bind ?_
    rw [if_neg (by simp [hstill])]
    refine .ofOp_bind ((does_log_same _ _ _).weaken fun _ logged hlogged => ?_)
    have hready := hsame.trans hlogged
    rw [← hready.store] at hreflects
    have hprobe := goes_inventory hvalid hreflects (hready.supply.trans hsupply)
    refine .record_bind (.ofOp_bind (hprobe.weaken fun _ probed hprobed => .record_bind ?_))
    obtain ⟨hspare, hfilled, hdone⟩ := hprobed
    have hclean := hfilled.sound.clean hfilled.registered
    refine (does_search_settled (Verifier.accepts_trusting host c) hclean (.inr hdone) 0).weaken
      fun found after hafter => ?_
    obtain ⟨hkept, hfound⟩ := hafter
    rw [hkept.store, hkept.supply]
    exact ⟨hspare, hfilled, hfound⟩

/-- A lookup that trusts, in the cache that a valid configuration gave. -/
theorem goes_find {config : Config} (hvalid : config.Valid) (htrusting : config.verifyPaths = false)
    (hmade : config.Made c before.store) (hname : name ≠ "") :
    GoesThrough (find host (some c) (some name) (some value) none none) before
      fun found store => Reflects config.inventory c config.devices store ∧
        store.Answers c name value found := by
  intro hsupply
  have hreflects := hmade.reflects
  have hverifier : config.verifier = .trusting := by
    rw [Config.verifier, htrusting]
    rfl
  have hunprobed := hmade.probed
  unfold find
  rw [requireArguments_eq_ok hname]
  refine Does.toOp (?_ : Does (dialogue host c name value none none) _ _ _)
  unfold dialogue
  refine .ofLook_bind (.ofOp_bind ((does_log_same _ _ _).weaken fun _ logged hlogged => ?_))
  rw [hmade.prober, hmade.verifier, hverifier]
  rw [← hlogged.store] at hreflects hunprobed
  cases hprobe : config.probeOnMiss with
  | true =>
    rw [hprobe] at hreflects hunprobed
    exact does_search_filling hvalid.devices hreflects (hlogged.supply.trans hsupply) hunprobed
  | false =>
    rw [hprobe] at hreflects
    have hclean := hreflects.sound.clean hreflects.registered
    refine (does_search_settled (Verifier.accepts_trusting host c) hclean (.inl rfl) 1).weaken
      fun found after hafter => ?_
    obtain ⟨hkept, hfound⟩ := hafter
    rw [hkept.store, hkept.supply]
    exact ⟨hlogged.supply.trans hsupply, hreflects, hfound⟩

/-- The name of the device that a lookup found. -/
def foundName : Option DeviceId → Op (Option String)
  | none => pure none
  | some d => return some (← Op.device d).name

theorem deviceName_given (hname : name ≠ "") (value : String) :
    deviceName host (some c) (some name) (some value) = (do
      foundName (← find host (some c) (some name) (some value) none none)) := by
  unfold deviceName
  dsimp only
  split
  · next hnone => cases hnone
  · next hempty => exact absurd (Option.some.inj hempty) hname
  · next heq =>
    cases heq
    refine congrArg (find host (some c) (some name) (some value) none none >>= ·) ?_
    funext found
    cases found <;> rfl

/-- A token without a value is read if it has an equals sign, and stands for itself otherwise. -/
theorem deviceName_token {token : String} (htoken : token ≠ "") :
    deviceName host (some c) (some token) none =
      if token.toList.contains '=' then do
        let (name, value) ← parseToken (some token)
        foundName (← find host (some c) (some name) (some value) none none)
      else pure (some token) := by
  unfold deviceName
  dsimp only
  split
  · next hnone => cases hnone
  · next hempty => exact absurd (Option.some.inj hempty) htoken
  · next heq =>
    cases heq
    split
    · refine congrArg (parseToken (some token) >>= ·) ?_
      funext pair
      refine congrArg (find host (some c) (some pair.1) (some pair.2) none none >>= ·) ?_
      funext found
      cases found <;> rfl
    · rfl

/-- The name that a lookup gives is that of the winner, and it gives none where no declared device
has the tag. -/
theorem goes_deviceName {config : Config} (hvalid : config.Valid)
    (htrusting : config.verifyPaths = false) (hmade : config.Made c before.store)
    (hname : name ≠ "") (value : String) :
    GoesThrough (deviceName host (some c) (some name) (some value)) before fun found _ =>
      (found = none ∧ ∀ device, ¬ config.inventory.Carries name value device) ∨
        ∃ device, found = some device ∧ config.inventory.Wins name value device := by
  rw [deviceName_given hname]
  refine (goes_find hvalid htrusting hmade hname).bind fun found after hfound => ?_
  obtain ⟨hreflects, hanswer⟩ := hfound
  cases found with
  | none => exact .pure (.inl ⟨rfl, hreflects.matching_eq_nil_iff.mp hanswer⟩)
  | some d =>
    obtain ⟨t, hleads⟩ := hanswer
    exact .look_bind (.pure (.inr ⟨_, rfl, hreflects.wins_of_leads hleads⟩))

end Lookup

end DeviceTags
