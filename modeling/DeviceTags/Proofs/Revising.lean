import DeviceTags.Proofs.Run
import DeviceTags.Proofs.Store.Revision
import DeviceTags.Proofs.Supply

/-!
# Setting a tag

On every reachable state, setting a tag revises the pairs of the device, its list of tags and the
head of the name as the pairs before ask for it, and shows nowhere else. It fails only where memory
runs out, and a deletion does not fail at all.
-/

namespace DeviceTags

open Store (Revises SameDevice)

/-- A value as an argument, or none. -/
def Tagging.valueDatum : Option String → Datum
  | none => .none
  | some text => .string text

/-- The name and the value that were given, unless they are rejected. -/
def Tagging.arguments (name value : Datum) : Except Failure (String × Option String) := do
  let name ← requireName name
  let value ← requireValue value
  return (name, value)

theorem Tagging.of_arguments {name value : Datum} {n : String} {v : Option String}
    (haccepted : arguments name value = .ok (n, v)) :
    n ≠ "" ∧ name = .string n ∧ value = valueDatum v := by
  cases name with
  | string given =>
    by_cases hgiven : given = ""
    · rw [arguments, requireName, if_pos hgiven] at haccepted
      cases haccepted
    · rw [arguments, requireName, if_neg hgiven] at haccepted
      cases value <;> cases haccepted <;> exact ⟨hgiven, rfl, rfl⟩
  | _ => cases haccepted

/-- What is rejected is rejected before anything is done. -/
theorem Tagging.set_of_rejected {name value : Datum} {failure : Failure}
    (hrejected : arguments name value = .error failure) (d : DeviceId) (replace : Bool)
    (memory : Memory) : set (some d) name value replace memory = .error failure memory := by
  unfold arguments at hrejected
  unfold set
  cases hname : requireName name with
  | error _ =>
    rw [hname] at hrejected
    cases hrejected
    rfl
  | ok n =>
    cases hvalue : requireValue value with
    | error _ =>
      rw [hname, hvalue] at hrejected
      cases hrejected
      rfl
    | ok v =>
      rw [hname, hvalue] at hrejected
      cases hrejected

variable {memory : Memory} {d : DeviceId} {name : String}

theorem does_setTag (hsound : memory.store.Sound) (hd : memory.store.devices.Holds d)
    (hname : name ≠ "") (value : Option String) (replace : Bool) :
    Does (Tagging.set (some d) (.string name) (Tagging.valueDatum value) replace) memory
      (fun _ after => after.store = memory.store.setTag d name value replace)
      fun failure _ => memory.supply ≠ .unlimited ∧ value.isSome ∧
        failure = .outOfMemorySetting name (memory.store.device d).name := by
  cases value with
  | none =>
    unfold Tagging.set
    rw [requireName_of_ne hname]
    change Does (Tagging.delete d name) _ _ _
    exact (does_delete d name fun t _ => hsound.linked.backed t).weaken fun _ _ hafter => hafter
  | some text =>
    have hdoes : Does (Tagging.set (some d) (.string name) (.string text) replace) memory
        (fun _ after => after.store = memory.store.assignTag d name text replace)
        fun failure _ => failure = .outOfMemorySetting name (memory.store.device d).name := by
      unfold Tagging.set
      rw [requireName_of_ne hname]
      exact (does_assign (hsound.taggable hd) name text replace).mono (fun _ _ hafter => hafter)
        fun _ _ hfailed => hfailed.1
    exact ((goes_set d hname text replace).limits hdoes).mono (fun _ _ hafter => hafter.2)
      fun _ _ hfailed => ⟨hfailed.1, rfl, hfailed.2⟩

/-- Setting a tag on a reachable state, with any supply of memory: it does to the pairs of the device
what the pairs before ask for, to its tags and to the head of the name the same, and to nothing else
anything; or it fails for want of memory, which a deletion never does. -/
theorem set_revises (hreach : Reachable memory) (supply : Supply)
    (hd : memory.store.devices.Holds d) (hname : name ≠ "") (value : Option String)
    (replace : Bool) :
    Does (Tagging.set (some d) (.string name) (Tagging.valueDatum value) replace)
      { memory with supply }
      (fun _ after =>
        Revises d name (.of (memory.store.pairs d) name value replace) memory.store after.store ∧
        (∀ e, e ≠ d → SameDevice memory.store after.store e) ∧
        ∀ which, which.name ≠ name →
          after.store.aliasValue d which = memory.store.aliasValue d which)
      fun failure _ => supply ≠ .unlimited ∧ value.isSome ∧
        failure = .outOfMemorySetting name (memory.store.device d).name := by
  obtain ⟨arrivals, hrun⟩ := hreach
  have hsound : memory.store.Sound := hrun.sound.1
  have hdoes := @does_setTag { memory with supply } d name hsound hd hname value replace
  refine hdoes.mono (fun _ after hafter => ?_) fun _ _ hfailed => hfailed
  have hrevises := hsound.revises_setTag hd name value replace
  have hkept : after.store.Sound := by
    rw [hafter]
    exact hsound.setTag hd name value replace
  rw [← hafter] at hrevises
  exact ⟨hrevises, fun e he => hrevises.sameDevice hsound hkept he,
    fun which hwhich => hrevises.access hrun.aliased hwhich⟩

/-- A second label comes last on its device and in the head of labels, behind the label of the device
that was attached first, and that device keeps all that it has. -/
theorem revises_lateAttached :
    Does (Tagging.set (some ⟨0⟩) (.string "LABEL") (.string "spare") false)
      { lateAttached.1 with supply := .unlimited }
      (fun _ after =>
        after.store.pairs ⟨0⟩ = [("LABEL", "data"), ("LABEL", "spare")] ∧
        after.store.entries ⟨0⟩ "LABEL" = [⟨1⟩, ⟨0⟩, ⟨2⟩] ∧
        SameDevice lateAttached.1.store after.store ⟨1⟩)
      fun _ _ => False := by
  refine (set_revises ⟨_, run_lateAttached⟩ .unlimited (by decide) (by decide) (some "spare")
    false).mono (fun _ after hafter => ?_) fun _ _ hfailed => hfailed.1 rfl
  obtain ⟨hrevises, hothers, -⟩ := hafter
  have hadding : Revision.of (lateAttached.1.store.pairs ⟨0⟩) "LABEL" (some "spare") false =
      .adding "spare" := by decide
  rw [hadding] at hrevises
  exact ⟨hrevises.pairs, hrevises.entries ⟨0⟩ rfl, hothers ⟨1⟩ (by decide)⟩

end DeviceTags
