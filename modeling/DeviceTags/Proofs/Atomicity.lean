import DeviceTags.Proofs.Run

/-!
# A failed change changes nothing

Setting a tag, attaching a device and removing one either go through or leave every record as it
was. Memory may run out at any request that links tags: with some tags of a device linked and others
not, and with heads that were made for them. What a failed attachment does not take back is what it
did before it asked for a place in the device list of its cache.
-/

namespace DeviceTags

/-- The operations that take back what they did before they failed. -/
def Action.IsGuarded : Action → Prop
  | .setTag _ _ _ _ | .addDevice _ _ | .removeDevice _ _ => True
  | _ => False

/-- The operation is an attachment that breaks off. -/
def Action.BreaksOff (action : Action) (before after : Memory) (failure : Failure) : Prop :=
  ∃ c d, action = .addDevice c d ∧ DeviceTags.BreaksOff before after c d failure

/-- A guarded operation that fails in a sound store restores it, unless it is an attachment that
breaks off. It fails for its arguments or for want of memory, and for nothing else. -/
theorem Action.does_guarded {action : Action} (hguarded : action.IsGuarded) (host : Host)
    {memory : Memory} (hsound : memory.store.Sound) (hadmissible : action.Admissible memory.store) :
    Does (action.perform host) memory (fun _ _ => True) fun failure after =>
      (memory.store.Restored after.store ∧
        (failure.kind = .parameter ∨ failure.kind = .resource)) ∨
      action.BreaksOff memory after failure := by
  cases action with
  | setTag d name value replace =>
    have hset := does_set (fun e he => hsound.taggable (hadmissible e he)) name value replace
    exact hset.mono (fun _ _ _ => trivial) fun _ _ hfailed => .inl hfailed
  | addDevice c d =>
    have hadd := does_add hsound hadmissible.1 hadmissible.2
    exact hadd.mono (fun _ _ _ => trivial) fun _ _ hfailed =>
      hfailed.imp_right fun hbreaks => ⟨c, d, rfl, hbreaks⟩
  | removeDevice c d =>
    refine (does_remove hsound d).mono (fun _ _ _ => trivial) fun failure after hfailed => ?_
    obtain ⟨hkept, hkind⟩ := hfailed
    rw [hkept]
    exact .inl ⟨.refl _, .inl hkind⟩
  | _ => exact hguarded.elim

/-- In every state that a run leads to, and wherever memory runs out, a change that fails leaves all
devices, tags, heads and caches as they were. The one exception is an attachment that finds no memory
for a place in the device list of its cache. -/
theorem failed_change_restores {memory : Memory} (hreachable : Reachable memory) (host : Host)
    (supply : Supply) {action : Action} (hguarded : action.IsGuarded)
    (hadmissible : action.Admissible memory.store) {failure : Failure} {after : Memory}
    (hfail : action.perform host { memory with supply } = .error failure after) :
    (memory.store.Restored after.store ∧
        (failure.kind = .parameter ∨ failure.kind = .resource)) ∨
      action.BreaksOff { memory with supply } after failure := by
  obtain ⟨arrivals, hrun⟩ := hreachable
  have hsound : ({ memory with supply } : Memory).store.Sound := hrun.sound.1
  have hdoes := Action.does_guarded hguarded host hsound hadmissible
  exact hdoes.of_error hfail

/-- A device with three tags beside a cache whose index has a head for the first of them. -/
def halfKnown : List Action :=
  [.newCache none none, .newDevice "/dev/sda1" .default {}, .newDevice "/dev/sdb1" .default {},
    .setTag (some ⟨0⟩) (.string "LABEL") (.string "data") false,
    .setTag (some ⟨0⟩) (.string "UUID") (.string "1234") false,
    .setTag (some ⟨0⟩) (.string "TYPE") (.string "ext4") false,
    .addDevice ⟨0⟩ (some ⟨1⟩),
    .setTag (some ⟨1⟩) (.string "LABEL") (.string "root") false]

/-- The state after that, with memory for one more head. -/
def shortOfHeads : Memory :=
  { (Action.performAll .bare .unlimited halfKnown ({}, [])).1 with
    supply := fun what => if what = .head then some 1 else none }

/-- Attaching the device enters its first tag in the head that was there and its second one in a new
head, and has no memory for a head for the third. -/
theorem restores_shortOfHeads :
    ∃ failure after, Attachment.add ⟨0⟩ (some ⟨0⟩) shortOfHeads = .error failure after ∧
      failure.kind = .resource ∧ shortOfHeads.store.Restored after.store := by
  have hrun : Reachable (Action.performAll .bare .unlimited halfKnown ({}, [])).1 := by
    refine ⟨_, Run.start.performAll .bare .unlimited halfKnown ?_⟩
    refine ⟨⟨by simp, by simp⟩, trivial, trivial, ?_, ?_, ?_, ⟨by decide, ?_⟩, ?_, trivial⟩
    all_goals
      intro e he
      cases he
      decide
  have hguarded : (Action.addDevice ⟨0⟩ (some ⟨0⟩)).IsGuarded := trivial
  have hadmissible : (Action.addDevice ⟨0⟩ (some ⟨0⟩)).Admissible shortOfHeads.store := by
    refine ⟨by decide, fun e he => ?_⟩
    cases he
    decide
  have hkind : ((Attachment.add ⟨0⟩ (some ⟨0⟩)).failure? shortOfHeads).map Failure.kind =
      some .resource := by decide +kernel
  obtain ⟨failure, hfailure, hresource⟩ := Option.map_eq_some_iff.mp hkind
  obtain ⟨after, hfail⟩ := Op.exists_error hfailure
  refine ⟨failure, after, hfail, hresource, ?_⟩
  obtain ⟨hrestored, -⟩ | ⟨_, _, -, hbreaks⟩ :=
    failed_change_restores hrun .bare shortOfHeads.supply hguarded hadmissible hfail
  · exact hrestored
  · exact absurd hbreaks.spent (by decide)

end DeviceTags
