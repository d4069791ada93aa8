import DeviceTags.Proofs.Index.Progress
import DeviceTags.Proofs.Store.Aliases

/-!
# What every operation but an attachment does to the index

From a sound store to a sound one, with the same collaborators in every cache, and with no new
entries but tags that were made on the way; direct accesses that agree with the tags go on to agree.
This composes, so that a compound operation needs no more than its parts. Where nothing breaks off,
a cache that lists all devices that point to it goes on to list them.
-/

namespace DeviceTags.Store

/-- Every cache has the prober and the verifier that it had. -/
structure SameCollaborators (before after : Store) : Prop where
  prober : ∀ c, (after.cache c).prober = (before.cache c).prober
  verifier : ∀ c, (after.cache c).verifier = (before.cache c).verifier

/-- From a sound store to a sound one with the same collaborators, with no new entries but tags that
were made on the way, and with direct accesses that agree with the tags if they did. -/
structure Onward (before after : Store) : Prop where
  sound : after.Sound
  progress : Progress before after fun t => ¬ before.tags.Holds t
  collaborators : SameCollaborators before after
  aliased : before.Aliased → after.Aliased

/-- A step onward after which no cache misses a device unless it missed one before. -/
structure Advance (before after : Store) : Prop extends Onward before after where
  registered : ∀ c, before.Registered c → after.Registered c

variable {store before middle after : Store}

/-! ## Collaborators -/

theorem SameCollaborators.refl (store : Store) : SameCollaborators store store :=
  ⟨fun _ => rfl, fun _ => rfl⟩

theorem SameCollaborators.trans (hfirst : SameCollaborators before middle)
    (hsecond : SameCollaborators middle after) : SameCollaborators before after :=
  ⟨fun c => (hsecond.prober c).trans (hfirst.prober c),
    fun c => (hsecond.verifier c).trans (hfirst.verifier c)⟩

theorem sameCollaborators_of_caches (hsame : ∀ c, after.cache c = before.cache c) :
    SameCollaborators before after :=
  ⟨fun c => by rw [hsame], fun c => by rw [hsame]⟩

theorem sameCollaborators_updateCache {change : Cache → Cache} (c : CacheId)
    (hkeep : ∀ record, (change record).prober = record.prober ∧
      (change record).verifier = record.verifier) :
    SameCollaborators store (store.updateCache c change) where
  prober := Table.field_update Cache.prober (fun record => (hkeep record).1) store.caches c
  verifier := Table.field_update Cache.verifier (fun record => (hkeep record).2) store.caches c

theorem sameCollaborators_linkAlias (d : DeviceId) (name : String) (t : Option TagId) :
    SameCollaborators store (store.linkAlias d name t) := by
  unfold linkAlias
  split
  · exact .refl store
  · split
    · exact .refl store
    · exact sameCollaborators_of_caches fun _ => rfl

theorem sameCollaborators_markDeviceChanged (d : DeviceId) :
    SameCollaborators store (store.markDeviceChanged d) := by
  unfold markDeviceChanged
  split
  · exact .refl store
  · exact sameCollaborators_updateCache _ fun _ => ⟨rfl, rfl⟩

theorem sameCollaborators_setDeviceCache (d : DeviceId) (c : Option CacheId) :
    SameCollaborators store (store.setDeviceCache d c) :=
  sameCollaborators_of_caches fun _ => rfl

theorem sameCollaborators_enterCache (c : CacheId) (d : DeviceId) :
    SameCollaborators store (store.enterCache c d) :=
  sameCollaborators_updateCache c fun _ => ⟨rfl, rfl⟩

theorem sameCollaborators_leaveCache (c : CacheId) (d : DeviceId) :
    SameCollaborators store (store.leaveCache c d) :=
  sameCollaborators_updateCache c fun _ => ⟨rfl, rfl⟩

theorem sameCollaborators_markChanged (c : CacheId) :
    SameCollaborators store (store.markChanged c) :=
  sameCollaborators_updateCache c fun _ => ⟨rfl, rfl⟩

theorem sameCollaborators_linkTag {c : CacheId} {t : TagId} (hc : store.caches.Holds c) :
    SameCollaborators store (store.linkTag c t) := by
  constructor
  all_goals
    intro k
    rw [cache_linkTag store hc]
    split <;> rfl

theorem sameCollaborators_linkMissing {c : CacheId} (ts : List TagId) {store : Store}
    (hc : store.caches.Holds c) : SameCollaborators store (linkMissing c ts store) := by
  induction ts generalizing store with
  | nil => exact .refl store
  | cons t rest ih =>
    rw [linkMissing]
    split
    · exact ih hc
    · exact (sameCollaborators_linkTag hc).trans (ih ((extends_linkTag store c t).holds_cache hc))

theorem sameCollaborators_unlinkTags (ts : List TagId) :
    SameCollaborators store (store.unlinkTags ts) :=
  sameCollaborators_of_caches (cache_unlinkTags ts store)

/-- What follows the change of the tags when a tag is set. -/
theorem sameCollaborators_finish (d : DeviceId) (name : String) (t : Option TagId)
    (hsame : SameCollaborators before after) :
    SameCollaborators before ((after.linkAlias d name t).markDeviceChanged d) :=
  hsame.trans ((sameCollaborators_linkAlias d name t).trans (sameCollaborators_markDeviceChanged d))

theorem Sound.sameCollaborators_appendTag (hsound : store.Sound) (d : DeviceId)
    (name value : String) : SameCollaborators store (store.appendTag d name value) := by
  unfold Store.appendTag
  split
  · exact sameCollaborators_of_caches fun _ => rfl
  · next c hcache =>
    have hc : store.caches.Holds c := hsound.held d c hcache
    have hmade : SameCollaborators store (store.makeTag d name value) :=
      sameCollaborators_of_caches fun _ => rfl
    exact hmade.trans (sameCollaborators_linkTag hc)

/-! ## Advancing -/

theorem Onward.refl (hsound : store.Sound) : Onward store store where
  sound := hsound
  progress := (Progress.of_sameLinks (.refl store)).mono fun _ => False.elim
  collaborators := .refl store
  aliased := id

theorem Advance.refl (hsound : store.Sound) : Advance store store :=
  { Onward.refl hsound with registered := fun _ => id }

theorem Onward.trans (hfirst : Onward before middle) (hsecond : Onward middle after) :
    Onward before after where
  sound := hsecond.sound
  progress := by
    have hboth := hfirst.progress.trans hsecond.progress fun t u ht _ hu =>
      Nat.lt_of_lt_of_le ht (Nat.le_of_not_lt hu)
    refine hboth.mono fun t hnew hold => ?_
    rcases hnew with hnew | hnew
    · exact hnew hold
    · exact hnew (hfirst.progress.lasting.holds_tag hold)
  collaborators := hfirst.collaborators.trans hsecond.collaborators
  aliased haliased := hsecond.aliased (hfirst.aliased haliased)

theorem Advance.trans (hfirst : Advance before middle) (hsecond : Advance middle after) :
    Advance before after :=
  { hfirst.toOnward.trans hsecond.toOnward with
    registered := fun c hregistered => hsecond.registered c (hfirst.registered c hregistered) }

theorem Sound.advance_of_sameIndex (hsound : before.Sound) (hsame : SameIndex before after)
    (hcollaborators : SameCollaborators before after) (haliases : SameAliases before after) :
    Advance before after where
  sound := hsound.of_sameIndex hsame
  progress := (Progress.of_sameLinks hsame.toSameLinks).mono fun _ => False.elim
  collaborators := hcollaborators
  aliased haliased := haliased.of_sameTags hsound haliases hsame.deviceTags
  registered _ := hsame.sameMembers.registered

theorem Sound.advance_restored (hsound : before.Sound) (hrestored : Restored before after) :
    Advance before after := by
  exact hsound.advance_of_sameIndex hrestored.sameIndex
    (sameCollaborators_of_caches hrestored.cache) hrestored.sameAliases

theorem Prepares.sameCollaborators {d : DeviceId} {name : String} {revision : Revision}
    {middle : Store} {link : Option TagId} (hprepares : store.Prepares d name revision middle link)
    (hsound : store.Sound) : SameCollaborators store middle := by
  cases hprepares with
  | clearing =>
    exact (sameCollaborators_unlinkTags _).trans (sameCollaborators_of_caches fun _ => rfl)
  | rewriting => exact sameCollaborators_of_caches fun _ => rfl
  | adding => exact hsound.sameCollaborators_appendTag d name _
  | doubling =>
    exact (hsound.sameCollaborators_appendTag d name _).trans
      (sameCollaborators_of_caches fun _ => rfl)

theorem Sound.advance_setTag (hsound : store.Sound) {d : DeviceId} (hd : store.devices.Holds d)
    (name : String) (value : Option String) (replace : Bool) :
    Advance store (store.setTag d name value replace) where
  sound := hsound.setTag hd name value replace
  progress := hsound.progress_setTag hd name value replace
  collaborators := by
    obtain ⟨-, hset⟩ | ⟨_, middle, link, -, hprepares, hset⟩ :=
    store.setTag_cases d name value replace
    · rw [hset]
      exact .refl store
    · rw [hset]
      exact sameCollaborators_finish d name link (hprepares.sameCollaborators hsound)
  aliased haliased := haliased.setTag hsound hd name value replace
  registered _ :=
    (hsound.linked.sameMembers_setTag hd (hsound.held d) name value replace).registered

theorem Sound.advance_detach (hsound : store.Sound) {c : CacheId} {d : DeviceId}
    (hmem : d ∈ (store.cache c).devices) : Advance store (store.detach c d) where
  sound := hsound.detach hmem
  progress := (hsound.progress_detach c d).mono fun _ => False.elim
  collaborators := by
    have hunlinked : SameCollaborators store (store.unlinkTags (store.device d).tags) :=
      sameCollaborators_unlinkTags _
    exact hunlinked.trans ((sameCollaborators_setDeviceCache d none).trans
      ((sameCollaborators_leaveCache c d).trans (sameCollaborators_markChanged c)))
  aliased haliased := haliased.detach hsound c d
  registered _ hregistered := hregistered.detach c d

theorem sameCollaborators_connect {c : CacheId} (hc : store.caches.Holds c) (d : DeviceId) :
    SameCollaborators store (store.connect c d) := by
  have hlinked : SameCollaborators store (linkMissing c (store.device d).tags store) :=
    sameCollaborators_linkMissing _ hc
  exact hlinked.trans (sameCollaborators_setDeviceCache d (some c))

theorem sameCollaborators_attach {c : CacheId} (hc : store.caches.Holds c) (d : DeviceId) :
    SameCollaborators store (store.attach c d) :=
  (sameCollaborators_connect hc d).trans
    ((sameCollaborators_enterCache c d).trans (sameCollaborators_markChanged c))

/-- A device without tags brings nothing into the index. -/
theorem Sound.onward_connect (hsound : store.Sound) {c : CacheId} {d : DeviceId}
    (hc : store.caches.Holds c) (hd : store.devices.Holds d) (hinvites : store.Invites c d)
    (hempty : (store.device d).tags = []) : Onward store (store.connect c d) where
  sound := hsound.connect hc hd hinvites
  progress := (hsound.progress_connect hc hinvites).mono fun t ht => by
    rw [hempty] at ht
    cases ht.1
  collaborators := sameCollaborators_connect hc d
  aliased haliased := haliased.connect hsound hd c

theorem Sound.advance_attach (hsound : store.Sound) {c : CacheId} {d : DeviceId}
    (hc : store.caches.Holds c) (hd : store.devices.Holds d) (hinvites : store.Invites c d)
    (hempty : (store.device d).tags = []) : Advance store (store.attach c d) where
  sound := hsound.attach hc hd hinvites
  progress := (hsound.progress_attach hc hinvites).mono fun t ht => by
    rw [hempty] at ht
    cases ht.1
  collaborators := sameCollaborators_attach hc d
  aliased haliased := haliased.attach hsound hd c
  registered _ hregistered := hregistered.attach hc hd

end DeviceTags.Store
