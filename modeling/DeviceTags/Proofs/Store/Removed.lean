import DeviceTags.Proofs.Store.Revision

/-!
# What is left of a removed device

A device that is removed keeps its name, its priority and its flags. Its tags are destroyed, so it
lists none and its direct accesses read nothing, and every head keeps its place and the entries of
the other devices, in their order. Nothing else about any other device is touched.
-/

namespace DeviceTags.Store

/-- All that the removal of a device from a cache does to what is stored. -/
structure Removed (before after : Store) (d : DeviceId) : Prop where
  device : after.device d = { before.device d with tags := [], cache := none }
  accesses : ∀ which, after.aliasValue d which = none
  others : ∀ e, e ≠ d → SameDevice before after e
  devices : ∀ k, (after.cache k).devices = (before.cache k).devices.filter (· ≠ d)
  heads : ∀ k, (after.cache k).heads = (before.cache k).heads
  entries : ∀ h, (after.head h).tags =
    (before.head h).tags.filter fun t => (before.tag t).device ≠ some d

variable {store : Store} {c : CacheId} {d : DeviceId}

theorem tag_detach (c : CacheId) (d : DeviceId) (t : TagId) :
    (store.detach c d).tag t =
      if t ∈ (store.device d).tags then { store.tag t with device := none, head := none }
      else store.tag t :=
  tag_unlinkTags (store.device d).tags store t

theorem cache_detach (hc : store.caches.Holds c) (d : DeviceId) (k : CacheId) :
    (store.detach c d).cache k =
      if k = c then
        { store.cache k with devices := (store.cache k).devices.erase d, changed := true }
      else store.cache k := by
  have hunlinked := (extends_unlinkTags (store.device d).tags store).holds_cache hc
  have hleft : (((store.unlinkTags (store.device d).tags).setDeviceCache d none).leaveCache c
      d).caches.Holds c := by
    rw [leaveCache, updateCache, Table.holds_update]
    exact hunlinked
  rw [detach, markChanged, cache_updateCache _ (.inl hleft), leaveCache,
    cache_updateCache _ (.inr rfl), setDeviceCache, cache_updateDevice, cache_unlinkTags]
  split <;> rfl

section Sound

variable (hsound : store.Sound)

include hsound

theorem Sound.device_detach (c : CacheId) (d e : DeviceId) :
    (store.detach c d).device e =
      if e = d then { store.device e with tags := [], cache := none } else store.device e := by
  obtain ⟨left, hleft, -⟩ := device_unlinkTags (store.device d).tags store e
  have htags : left = (store.device e).tags.filter (· ∉ (store.device d).tags) := by
    rw [← hsound.linked.tags_device_unlinkTags, hleft]
  have hplaced : (store.detach c d).device e =
      if e = d then { store.device e with tags := left, cache := none }
      else { store.device e with tags := left } := by
    rw [Store.detach, markChanged, device_updateCache, leaveCache, device_updateCache,
      setDeviceCache, device_updateDevice _ (.inr rfl), hleft]
  rw [hplaced]
  split
  · next he =>
    have hnone : left = [] := by
      rw [htags, he, List.filter_eq_nil_iff]
      simp
    rw [hnone]
  · next he =>
    have hkept : left = (store.device e).tags := by
      rw [htags, ← hsound.linked.tags_device_unlinkTags,
        hsound.linked.tags_device_unlinkTags_of_ne he (List.Subset.refl _)]
    rw [hkept]

theorem Sound.tags_head_detach (c : CacheId) (d : DeviceId) (h : HeadId) :
    ((store.detach c d).head h).tags =
      (store.head h).tags.filter fun t => (store.tag t).device ≠ some d := by
  refine (hsound.linked.tags_head_unlinkTags (store.device d).tags h).trans ?_
  refine List.filter_congr fun t _ => ?_
  simp only [hsound.linked.listed, ne_eq]

theorem Sound.removed_detach (hmem : d ∈ (store.cache c).devices) :
    Removed store (store.detach c d) d := by
  have hafter := hsound.detach hmem
  have hdevice := hsound.device_detach c d
  constructor
  case device => rw [hdevice, if_pos rfl]
  case accesses =>
    intro which
    unfold aliasValue
    split
    · rfl
    · next t _ =>
      refine if_neg fun howner => ?_
      have hlisted := (hafter.linked.listed d t).mpr howner
      rw [hdevice, if_pos rfl] at hlisted
      cases hlisted
  case others =>
    intro e he
    refine sameDevice_of_record hsound hafter ?_ fun t ht => ?_
    · rw [hdevice, if_neg he]
    · rw [tag_detach, if_neg]
      intro hother
      have howner := (hsound.linked.listed d t).mp hother
      rw [(hsound.linked.listed e t).mp ht] at howner
      exact he (Option.some.inj howner)
  case devices =>
    intro k
    rw [cache_detach (holds_cache_of_mem hmem)]
    split
    · dsimp only
      rw [(hsound.attachedOnce k).erase_eq_filter]
      exact List.filter_congr fun e _ => Bool.eq_iff_iff.mpr (by simp)
    · next hk =>
      refine (List.filter_eq_self.mpr fun e he => ?_).symm
      have hne : e ≠ d := by
        rintro rfl
        have hhere := hsound.attached c e hmem
        rw [hsound.attached k e he] at hhere
        exact hk (Option.some.inj hhere)
      simpa using hne
  case heads =>
    intro k
    rw [cache_detach (holds_cache_of_mem hmem)]
    split <;> rfl
  case entries => exact hsound.tags_head_detach c d

end Sound

end DeviceTags.Store
