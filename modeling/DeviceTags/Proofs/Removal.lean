import DeviceTags.Proofs.Latest
import DeviceTags.Proofs.Lookup.Removal
import DeviceTags.Proofs.Supply

/-!
# Removal takes a device out of every answer

A device that is removed from its cache drops out of every listing, and the other devices are listed
as before. It has no tags then, so that it is listed nowhere when it is attached again, and it gets
none unless it is tagged. That is said of whole runs by their chronicle: whatever happens after the
removal, if no tag that was written since belongs to the device, no listing has it.
-/

namespace DeviceTags

open Store (Removed)

/-- The index lists these devices for a name with a value. -/
def Lookup.Lists (memory : Memory) (c : CacheId) (name value : String) (devices : List DeviceId) :
    Prop :=
  Lookup.all (some c) (some name) (some value) memory = .ok devices memory

/-- Lets one turn follow the other, with a chronicle of the tags that are written. -/
def Turn.chronicle : List Turn → Memory × List TagId → Memory × List TagId
  | [], state => state
  | turn :: rest, (memory, written) =>
    chronicle rest ((turn.action.chronicle turn.host).ending (turn.start memory, written))

variable {memory : Memory} {c : CacheId} {d : DeviceId}

/-! ## Devices without tags -/

/-- A device without tags is in no listing. -/
theorem exists_listing_without (hsound : memory.store.Sound)
    (hempty : (memory.store.device d).tags = []) (c : CacheId) {name : String} (hname : name ≠ "")
    (value : String) : ∃ devices, Lookup.Lists memory c name value devices ∧ d ∉ devices := by
  obtain ⟨devices, hlisting, -, hpair⟩ := Lookup.exists_listing hsound c name value
  refine ⟨devices, Lookup.all_of_listing hname hlisting, fun hmem => ?_⟩
  have hcarries := (hpair d hmem).2
  rw [Store.hasPair, hempty] at hcarries
  cases hcarries

/-- Attaching a device without tags changes no listing, and neither does an attachment of it that
breaks off. -/
theorem listing_connect_untagged {store : Store} (hd : store.devices.Holds d)
    (hempty : (store.device d).tags = []) (c k : CacheId) (name value : String) :
    Lookup.listing (store.connect c d) k name value = Lookup.listing store k name value := by
  have hconnect : store.connect c d = store.setDeviceCache d (some c) := by
    rw [Store.connect, hempty]
    rfl
  have hlinks := Store.sameLinks_connect_untagged hempty c
  refine Lookup.listing_of_sameLinks hlinks (fun t => ?_) (fun e => ?_) k name value
  · rw [hconnect]
    rfl
  · rw [Store.device_connect hd]
    split <;> rfl

theorem listing_attach_untagged {store : Store} (hd : store.devices.Holds d)
    (hempty : (store.device d).tags = []) (c k : CacheId) (name value : String) :
    Lookup.listing (store.attach c d) k name value = Lookup.listing store k name value := by
  have hlinks : (store.connect c d).SameLinks (store.attach c d) :=
    (Store.sameLinks_enterCache c d).trans (Store.sameIndex_markChanged c).toSameLinks
  have henlisted := Lookup.listing_of_sameLinks hlinks (fun _ => rfl) (fun _ => rfl) k name value
  exact henlisted.trans (listing_connect_untagged hd hempty c k name value)

/-- A device without tags that is in no cache can be attached anywhere, if there is memory for its
place in the cache. Whether there is or not, every listing stays as it is. -/
theorem attached_untagged (hsound : memory.store.Sound) (hd : memory.store.devices.Holds d)
    (hfree : (memory.store.device d).cache = none) (hempty : (memory.store.device d).tags = [])
    (hc : memory.store.caches.Holds c) (supply : Supply) :
    (supply .cacheSlot ≠ some 0 → ∃ back,
      Attachment.add c (some d) { memory with supply } = .ok () back ∧
      d ∈ (back.store.cache c).devices) ∧
    ∀ k name value,
      Lookup.listing ((Attachment.add c (some d)).after { memory with supply }).store k name value =
        Lookup.listing memory.store k name value := by
  have hadd : Does (Attachment.add c (some d)) { memory with supply }
      (fun _ after => after.store = memory.store.attach c d)
      fun failure after => BreaksOff { memory with supply } after c (some d) failure :=
    does_addUntagged (hsound.invites_of_free hfree c) hempty
  refine ⟨fun hroom => ?_, fun k name value => ?_⟩
  · have hgoes : Does (Attachment.add c (some d)) { memory with supply }
        (fun _ after => after.store = memory.store.attach c d) fun _ _ => False :=
      hadd.mono (fun _ _ hafter => hafter) fun _ _ hbreaks => hroom hbreaks.spent
    obtain ⟨_, back, hok, hstore⟩ := hgoes.exists_ok
    refine ⟨back, hok, ?_⟩
    rw [hstore, Store.devices_attach hc, if_pos rfl]
    exact List.mem_append_right _ List.mem_cons_self
  · refine Does.after (fun after => Lookup.listing after.store k name value = _) ?_
    refine hadd.mono (fun _ _ hstore => ?_) fun _ _ hbreaks => ?_
    · rw [hstore, listing_attach_untagged hd hempty]
    · obtain ⟨e, he, -, hstore⟩ := hbreaks.connected
      cases he
      rw [hstore]
      exact listing_connect_untagged hd hempty c k name value

/-! ## Runs with a chronicle -/

/-- Whatever happens in a run, a tag that a device did not have before is in the chronicle. -/
theorem Turn.records_chronicle (turns : List Turn) (hreachable : Reachable memory)
    (hadmissible : Turn.AllAdmissible turns memory) (written : List TagId) :
    Reachable (Turn.chronicle turns (memory, written)).1 ∧
      Records (memory, written) (Turn.chronicle turns (memory, written)) := by
  induction turns generalizing memory written with
  | nil => exact ⟨hreachable, id, List.Subset.refl _, fun _ _ => .inl⟩
  | cons turn rest ih =>
    obtain ⟨hfirst, hrest⟩ := hadmissible
    obtain ⟨arrivals, hrun⟩ := hreachable
    let state := (turn.action.chronicle turn.host).ending (turn.start memory, written)
    have hrecords : Records (turn.start memory, written) state :=
      turn.action.records turn.host written hrun.sound.1 hrun.sound.2 hfirst
    have hstate : (turn.after memory, state.2) = state :=
      Prod.ext (turn.action.ending_chronicle turn.host (turn.start memory) written).symm rfl
    have hlater := ih (Reachable.after ⟨arrivals, hrun⟩ hfirst) hrest state.2
    rw [hstate] at hlater
    have hstarted : Records (memory, written) (turn.start memory, written) :=
      ⟨id, List.Subset.refl _, fun _ _ => .inl⟩
    exact ⟨hlater.1, hstarted.trans (hrecords.trans hlater.2)⟩

/-! ## What a removal does -/

/-- The removal of an attached device goes through. -/
theorem exists_removed (hreachable : Reachable memory) (hd : d ∈ (memory.store.cache c).devices)
    (supply : Supply) : ∃ after, Attachment.remove c (some d) { memory with supply } = .ok () after ∧
      after.store = memory.store.detach c d ∧ Reachable after := by
  obtain ⟨arrivals, hrun⟩ := hreachable
  have hsound := hrun.sound.1
  have hremove : Does (Attachment.remove c (some d)) { memory with supply }
      (fun _ after => after.store = memory.store.detach c d) fun _ _ => False := by
    apply does_removeAttached
    · exact hsound
    · exact hd
  obtain ⟨_, after, hok, hstore⟩ := hremove.exists_ok
  refine ⟨after, hok, hstore, ?_⟩
  have hheld : memory.store.devices.Holds d :=
    Store.holds_device_of_cache (hsound.attached c d hd)
  have hstep := hrun.step .bare supply (.removeDevice c (some d))
    ⟨Store.holds_cache_of_mem hd, by simpa using hheld⟩
  have hafter : (Action.perform .bare (.removeDevice c (some d))).after { memory with supply } =
      after := by
    rw [Action.perform, Op.after, hok]
  rw [hafter] at hstep
  exact ⟨_, hstep⟩

/-- In every state that a run leads to, an attached device can be removed. Every listing then is what
it was without that device, and of the others nothing changes. Attaching it again, anywhere, changes
no listing, be there memory for its place in the cache or not; and whatever happens after the removal,
no listing has it as long as none of the tags that were written since belongs to it. -/
theorem removal_leaves_other_answers (hreachable : Reachable memory)
    (hd : d ∈ (memory.store.cache c).devices) (supply : Supply) :
    ∃ after, Attachment.remove c (some d) { memory with supply } = .ok () after ∧
      Removed memory.store after.store d ∧
      (∀ k name value, name ≠ "" → ∃ devices, Lookup.Lists memory k name value devices ∧
        Lookup.Lists after k name value (devices.filter (· ≠ d))) ∧
      (∀ k supply, memory.store.caches.Holds k →
        (supply .cacheSlot ≠ some 0 → ∃ back,
          Attachment.add k (some d) { after with supply } = .ok () back ∧
          d ∈ (back.store.cache k).devices) ∧
        ∀ j name value, name ≠ "" → ∃ devices, Lookup.Lists after j name value devices ∧
          Lookup.Lists ((Attachment.add k (some d)).after { after with supply }) j name value
            devices) ∧
      ∀ turns now written, Turn.AllAdmissible turns after →
        Turn.chronicle turns (after, []) = (now, written) →
        (∀ t ∈ written, (now.store.tag t).device ≠ some d) →
        ∀ k name value, name ≠ "" →
          ∃ devices, Lookup.Lists now k name value devices ∧ d ∉ devices := by
  obtain ⟨after, hremove, hstore, hafter⟩ := exists_removed hreachable hd supply
  have hsound := hreachable.sound
  have hremoved : Removed memory.store after.store d := hstore ▸ hsound.removed_detach hd
  have hempty : (after.store.device d).tags = [] := by rw [hremoved.device]
  have hlasting : Store.Extends memory.store after.store :=
    hstore ▸ (hsound.advance_detach hd).progress.lasting
  have hheld := hlasting.holds_device (Store.holds_device_of_cache (hsound.attached c d hd))
  refine ⟨after, hremove, hremoved, fun k name value hname => ?_, fun k supply hk => ?_,
    fun turns now written hadmissible hchronicle huntagged k name value hname => ?_⟩
  · obtain ⟨devices, hlisted, hleft⟩ := Lookup.listing_of_removed hsound hremoved k name value
    exact ⟨devices, Lookup.all_of_listing hname hlisted, Lookup.all_of_listing hname hleft⟩
  · obtain ⟨hattached, hsame⟩ := attached_untagged hafter.sound hheld (by rw [hremoved.device])
      hempty (hlasting.holds_cache hk) supply
    refine ⟨hattached, fun j name value hname => ?_⟩
    obtain ⟨devices, hlisting, -⟩ := Lookup.exists_listing hafter.sound j name value
    exact ⟨devices, Lookup.all_of_listing hname hlisting,
      Lookup.all_of_listing hname ((hsame j name value).trans hlisting)⟩
  · obtain ⟨hend, hrecords⟩ := Turn.records_chronicle turns hafter hadmissible []
    rw [hchronicle] at hend hrecords
    refine exists_listing_without hend.sound (List.eq_nil_iff_forall_not_mem.mpr ?_) k hname value
    intro t ht
    rcases hrecords.listed d t ht with hold | hwritten
    · change t ∈ (after.store.device d).tags at hold
      rw [hempty] at hold
      cases hold
    · exact huntagged t hwritten ((hend.sound.linked.listed d t).mp ht)

/-- Of two devices with the same label the one that is listed first is removed. -/
theorem removal_of_first_listed : ∃ after,
    Attachment.remove ⟨0⟩ (some ⟨1⟩) { lateAttached.1 with supply := .unlimited } = .ok () after ∧
      (after.store.device ⟨1⟩).tags = [] ∧
      Lookup.Lists lateAttached.1 ⟨0⟩ "LABEL" "data" [⟨1⟩, ⟨0⟩] ∧
      Lookup.Lists after ⟨0⟩ "LABEL" "data" [⟨0⟩] := by
  have hattached : ⟨1⟩ ∈ (lateAttached.1.store.cache ⟨0⟩).devices := by decide
  obtain ⟨after, hremove, hremoved, hlistings, -⟩ :=
    removal_leaves_other_answers ⟨_, run_lateAttached⟩ hattached .unlimited
  obtain ⟨devices, hbefore, hafter⟩ := hlistings ⟨0⟩ "LABEL" "data" (by decide)
  have hlisted : Lookup.Lists lateAttached.1 ⟨0⟩ "LABEL" "data" [⟨1⟩, ⟨0⟩] :=
    Lookup.all_of_listing (by decide) (Lookup.listing_of_sorted (by decide) (by decide))
  cases hbefore.symm.trans hlisted
  exact ⟨after, hremove, by rw [hremoved.device], hlisted, hafter⟩

end DeviceTags
