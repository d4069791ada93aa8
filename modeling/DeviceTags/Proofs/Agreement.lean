import DeviceTags.Proofs.Index.Audit
import DeviceTags.Proofs.Run

/-!
# The two sides agree

In every state that a run leads to, the tag lists of the devices and the heads of the index say the
same, in the same order. `SidesAgree` spells that out without the invariant that carries it, and
`Agrees` adds that every cache lists all devices that point to it. That is so until a registration
breaks off, which leaves a device that points to a cache that does not list it.
-/

namespace DeviceTags

open Store (Sound Linked)

namespace Store

/-- Tag lists, heads and back-references agree. -/
structure SidesAgree (store : Store) : Prop where
  attached : ∀ c d, d ∈ (store.cache c).devices → (store.device d).cache = some c
  attachedOnce : ∀ c, (store.cache c).devices.Nodup
  owned : ∀ d, ∀ t ∈ (store.device d).tags, (store.tag t).device = some d
  ownedOnce : ∀ d, (store.device d).tags.Nodup
  /-- A tag of an unattached device, or of none, is in no head. -/
  loose : ∀ t, (∀ d, (store.tag t).device = some d → (store.device d).cache = none) →
    (store.tag t).head = none ∧ ∀ h, t ∉ (store.head h).tags
  /-- Of the entries of a name, those of an attached device are its tags of that name, in order. -/
  sameOrder : ∀ c d name, (store.device d).cache = some c →
    (store.entries c name).filter (fun t => (store.tag t).device = some d) =
      (store.device d).tags.filter fun t => (store.tag t).name = name
  linked : ∀ c d, (store.device d).cache = some c → ∀ t ∈ (store.device d).tags,
    ∃ h, store.headOf? c (store.tag t).name = some h ∧ (store.tag t).head = some h
  /-- An entry has the name of its head and belongs to a device that points to the cache. -/
  entry : ∀ c name h, store.headOf? c name = some h → (store.head h).name = name ∧
    ∀ t ∈ (store.head h).tags, (store.tag t).name = name ∧ (store.tag t).head = some h ∧
      ∃ d, (store.device d).cache = some c ∧ t ∈ (store.device d).tags
  entryOnce : ∀ h, (store.head h).tags.Nodup
  namesOnce : ∀ c, (store.headNames c).Nodup
  headOfOne : ∀ c k name other h, store.headOf? c name = some h →
    store.headOf? k other = some h → c = k ∧ name = other

/-- Both sides agree, every cache lists all devices that point to it, and the audit finds
nothing. -/
structure Agrees (store : Store) : Prop extends SidesAgree store where
  registered : ∀ c, store.Registered c
  audited : ∀ c, Audit.problems store c = []

variable {store : Store}

/-- Both sides list the same tags, and both in the order in which they were made. -/
theorem Sound.sameOrder (hsound : store.Sound) {c : CacheId} {d : DeviceId} (name : String)
    (hcache : (store.device d).cache = some c) :
    (store.entries c name).filter (fun t => (store.tag t).device = some d) =
      (store.device d).tags.filter fun t => (store.tag t).name = name := by
  have hlinked := hsound.linked
  have horder : ∀ h, ((store.head h).tags.filter fun t => (store.tag t).device = some d).Pairwise
      (·.index < ·.index) := by
    intro h
    rw [List.pairwise_filter]
    refine (hlinked.enteredInOrder h).imp fun hlt ht hu => hlt ?_
    rw [of_decide_eq_true ht, of_decide_eq_true hu]
  refine List.Pairwise.eq_of_mem_iff (r := (·.index < ·.index)) ?_
    ((hlinked.listedInOrder d).sublist List.filter_sublist) fun t => ?_
  · unfold entries
    split
    · exact List.Pairwise.nil
    · exact horder _
  · simp only [List.mem_filter, decide_eq_true_eq, hlinked.listed]
    constructor
    · rintro ⟨hentry, howner⟩
      exact ⟨howner, (hsound.of_mem_entries hentry).1⟩
    · rintro ⟨howner, rfl⟩
      obtain ⟨h, hfound, hhead⟩ := hsound.head_of_attached hcache ((hlinked.listed d t).mpr howner)
      refine ⟨?_, howner⟩
      rw [entries, hfound]
      exact (hlinked.entered h t).mpr hhead

theorem Sound.sidesAgree (hsound : store.Sound) : store.SidesAgree where
  attached := hsound.attached
  attachedOnce := hsound.attachedOnce
  owned d t ht := (hsound.linked.listed d t).mp ht
  ownedOnce := hsound.linked.listedOnce
  loose t hnowhere := by
    have hfree : ∀ h, (store.tag t).head ≠ some h := by
      intro h hhead
      obtain ⟨d, c, howner, hcache, -⟩ := hsound.linked.homed t h hhead
      rw [hnowhere d howner] at hcache
      cases hcache
    constructor
    · exact Option.eq_none_iff_forall_ne_some.mpr hfree
    · exact fun h ht => hfree h ((hsound.linked.entered h t).mp ht)
  sameOrder c d name hcache := hsound.sameOrder name hcache
  linked c d hcache t ht := hsound.head_of_attached hcache ht
  entry c name h hfound := by
    have hentry := mem_heads_of_headOf? hfound
    refine ⟨hsound.linked.headNamed c _ hentry, fun t ht => ?_⟩
    obtain ⟨hname, d, howner, hcache⟩ := hsound.owner_of_entry hentry ht
    have hmem : t ∈ (store.device d).tags := (hsound.linked.listed d t).mpr howner
    exact ⟨hname, (hsound.linked.entered h t).mp ht, d, hcache, hmem⟩
  entryOnce := hsound.linked.enteredOnce
  namesOnce := hsound.linked.namesOnce
  headOfOne c k name other h hfound hfound' := by
    have hentry := mem_heads_of_headOf? hfound
    have hentry' := mem_heads_of_headOf? hfound'
    refine ⟨hsound.linked.headOfOne c k _ _ hentry hentry' rfl, ?_⟩
    have hname := hsound.linked.headNamed c _ hentry
    rwa [hsound.linked.headNamed k _ hentry', eq_comm] at hname

theorem Sound.agrees (hsound : store.Sound) (hregistered : ∀ c, store.Registered c) :
    store.Agrees :=
  { hsound.sidesAgree with
    registered := hregistered
    audited := fun c => Audit.problems_eq_nil_iff.mpr (hsound.clean (hregistered c)) }

theorem HalfRegistered.not_agrees (hhalf : store.HalfRegistered) : ¬ store.Agrees := by
  intro hagrees
  obtain ⟨c, d, hjoining, -⟩ := hhalf
  exact hjoining.not_mem_devices c (hagrees.registered c d hjoining.pointed)

end Store

/-- Whatever run of public operations leads to a state, tag lists and index agree in it. Every cache
lists all devices that point to it, and the audit finds nothing, as long as no registration breaks
off: an operation keeps that exactly if it does not break off there, on whatever file system and
supply. If it does, all that is amiss is one device that its cache does not list. -/
theorem reachable_agrees {memory : Memory} (hreachable : Reachable memory) :
    memory.store.SidesAgree ∧ (Orderly memory → memory.store.Agrees) ∧
      (memory.store.Agrees → ∀ (host : Host) (supply : Supply) (action : Action),
        action.Admissible memory.store →
          let start := { memory with supply }
          let after := (action.perform host).after start
          (after.store.Agrees ↔ (action.perform host).Unbroken start) ∧
            (¬ (action.perform host).Unbroken start → after.store.HalfRegistered)) := by
  obtain ⟨arrivals, hrun⟩ := hreachable
  obtain ⟨hsound, hpackaged⟩ := hrun.sound
  refine ⟨hsound.sidesAgree, fun horderly => hsound.agrees horderly.registered, ?_⟩
  intro hagrees host supply action hadmissible
  have hbroken := action.halfRegistered_of_broken host { memory with supply } hsound hpackaged
    hadmissible hagrees.registered
  refine ⟨⟨fun hagrees' => ?_, fun hunbroken => ?_⟩, hbroken⟩
  · by_contra hbreaks
    exact (hbroken hbreaks).not_agrees hagrees'
  · exact (hrun.step host supply action hadmissible).sound.1.agrees fun c =>
      action.registered_of_unbroken host { memory with supply } hsound hpackaged hadmissible
        hunbroken (hagrees.registered c)

/-- The entries of the label stand in the order in which the devices were attached. -/
theorem agrees_lateAttached : lateAttached.1.store.Agrees ∧
    lateAttached.1.store.entries ⟨0⟩ "LABEL" = [⟨1⟩, ⟨0⟩] ∧
    (lateAttached.1.store.device ⟨0⟩).tags = [⟨0⟩] :=
  ⟨(reachable_agrees ⟨_, run_lateAttached⟩).2.1 orderly_lateAttached, rfl, rfl⟩

/-- A cache, and a device with a label that belongs nowhere. -/
def labelledOutside : Memory :=
  (Action.performAll .bare .unlimited
    [.newCache none none, .newDevice "/dev/sda1" .default {},
      .setTag (some ⟨0⟩) (.string "LABEL") (.string "data") false] ({}, [])).1

/-- Memory for anything but a place in the device list of a cache. -/
def Supply.withoutCacheSlot : Supply := fun what => if what = .cacheSlot then some 0 else none

/-- The state after the device was attached with no memory for its place in the cache. -/
def unlisted : Memory :=
  ((Action.addDevice ⟨0⟩ (some ⟨0⟩)).perform .bare).after
    { labelledOutside with supply := .withoutCacheSlot }

theorem reachable_labelledOutside : Reachable labelledOutside := by
  refine ⟨_, Run.start.performAll .bare .unlimited _ ?_⟩
  refine ⟨⟨by simp, by simp⟩, trivial, ?_, trivial⟩
  intro e he
  cases he
  decide

theorem admissible_labelledOutside :
    (Action.addDevice ⟨0⟩ (some ⟨0⟩)).Admissible labelledOutside.store := by
  refine ⟨by decide +kernel, fun e he => ?_⟩
  cases he
  decide +kernel

/-- The attachment fails, the device points to the cache, and the cache does not list it. The tag is
linked, so that the audit finds its entry without a device. -/
theorem unlisted_disagrees :
    Reachable labelledOutside ∧
      (Action.addDevice ⟨0⟩ (some ⟨0⟩)).Admissible labelledOutside.store ∧
      (unlisted.store.device ⟨0⟩).cache = some ⟨0⟩ ∧ (unlisted.store.cache ⟨0⟩).devices = [] ∧
      Audit.problems unlisted.store ⟨0⟩ =
        [.unregistered "LABEL" "LABEL" "data" "/dev/sda1"] ∧
      ¬ unlisted.store.Agrees := by
  refine ⟨reachable_labelledOutside, admissible_labelledOutside, by decide +kernel, by decide +kernel,
    by decide +kernel, fun hagrees => ?_⟩
  have hlisted : (⟨0⟩ : DeviceId) ∈ (unlisted.store.cache ⟨0⟩).devices :=
    hagrees.registered ⟨0⟩ ⟨0⟩ (by decide +kernel)
  exact absurd hlisted (by decide +kernel)

end DeviceTags
