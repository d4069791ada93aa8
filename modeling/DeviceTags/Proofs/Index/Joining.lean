import DeviceTags.Proofs.Index.Audit
import DeviceTags.Proofs.Store.View

/-!
# Half registered devices

A device is half registered if it points to a cache that does not list it. It becomes so by hand, and
then the tags that it had by then are in no head, or by an attachment that breaks off before the cache
lists the device, and then all its tags are linked. `Joining` says what is linked and what waits.
Attaching the device links the tags that wait and no others, and lists the device. The two sides of
the index agree then, though the tags that waited stand behind younger ones.
-/

namespace DeviceTags.Store

variable {store after : Store} {c : CacheId} {d : DeviceId} {waiting : List TagId}

/-! ## What holds of a half registered device -/

/-- The device points to the cache, and no cache lists it. Its tags from before wait to be linked,
and all else is linked. -/
structure Joining (store : Store) (c : CacheId) (d : DeviceId) (waiting : List TagId) : Prop where
  linked : store.Linked (fun e => (store.device e).cache) waiting
  pointed : (store.device d).cache = some c
  held : store.caches.Holds c
  attached : ∀ k e, e ∈ (store.cache k).devices → (store.device e).cache = some k ∧ e ≠ d
  attachedOnce : ∀ k, (store.cache k).devices.Nodup
  own : ∀ t ∈ waiting, ∀ e, (store.tag t).device = some e → e = d
  made : ∀ t ∈ waiting, store.tags.Holds t

/-- A cache lists no device that belongs nowhere. -/
theorem Sound.ne_of_free (hsound : store.Sound) (hfree : (store.device d).cache = none)
    {k : CacheId} {e : DeviceId} (he : e ∈ (store.cache k).devices) : e ≠ d := by
  rintro rfl
  exact (hsound.invites_of_free hfree k).out he

/-- A device that belongs nowhere and is pointed to a cache is half registered with all its tags. -/
theorem Sound.joining (hsound : store.Sound) (hc : store.caches.Holds c)
    (hd : store.devices.Holds d) (hfree : (store.device d).cache = none) :
    (store.setDeviceCache d (some c)).Joining c d (store.device d).tags := by
  have hcaches : ∀ e, ((store.setDeviceCache d (some c)).device e).cache =
      if e = d then some c else (store.device e).cache := by
    intro e
    rw [setDeviceCache, device_updateDevice _ (.inl hd)]
    split <;> rfl
  constructor
  case linked =>
    simp only [hcaches]
    exact (hsound.linked.invite hfree c).of_sameLinks (sameLinks_setDeviceCache d (some c))
  case pointed => rw [hcaches, if_pos rfl]
  case held => exact hc
  case attached =>
    intro k e he
    have hne := hsound.ne_of_free hfree he
    rw [hcaches, if_neg hne]
    exact ⟨hsound.attached k e he, hne⟩
  case attachedOnce => exact hsound.attachedOnce
  case own =>
    intro t ht e howner
    have hown : (store.tag t).device = some d := (hsound.linked.listed d t).mp ht
    exact Option.some.inj (howner.symm.trans hown)
  case made => exact fun t ht => holds_tag_of_device ((hsound.linked.listed d t).mp ht)

/-- A device that is pointed to a cache by hand is the only one that a cache may miss. -/
theorem Registered.setDeviceCache {k : CacheId} (hregistered : store.Registered k)
    (hd : store.devices.Holds d) (target : Option CacheId) :
    (store.setDeviceCache d target).RegisteredBut k d := by
  intro e he hcache
  rw [Store.setDeviceCache, device_updateDevice _ (.inl hd), if_neg he] at hcache
  exact hregistered e hcache

/-- A device that belongs nowhere and is connected to a cache is half registered, and none of its tags
waits. -/
theorem Sound.joining_connect (hsound : store.Sound) (hc : store.caches.Holds c)
    (hd : store.devices.Holds d) (hfree : (store.device d).cache = none) :
    (store.connect c d).Joining c d [] := by
  constructor
  case linked => exact hsound.linked_connect hc hd hfree
  case pointed => rw [device_connect hd, if_pos rfl]
  case held => exact (extends_connect store c d).holds_cache hc
  case attached =>
    intro k e
    rw [devices_connect hc, device_connect hd]
    intro he
    have hne := hsound.ne_of_free hfree he
    rw [if_neg hne]
    exact ⟨hsound.attached k e he, hne⟩
  case attachedOnce =>
    intro k
    rw [devices_connect hc]
    exact hsound.attachedOnce k
  all_goals simp

namespace Joining

variable (hjoining : store.Joining c d waiting)

include hjoining

theorem of_sameMembers (hsame : SameMembers store after)
    (hlinked : after.Linked (fun e => (store.device e).cache) waiting)
    (howner : ∀ t e, (after.tag t).device = some e → e = d ∨ (store.tag t).device = some e) :
    after.Joining c d waiting where
  linked := by
    simp only [hsame.deviceCache]
    exact hlinked
  pointed := (hsame.deviceCache d).trans hjoining.pointed
  held := hsame.lasting.holds_cache hjoining.held
  attached k e := by
    rw [hsame.cacheDevices, hsame.deviceCache]
    exact hjoining.attached k e
  attachedOnce k := by
    rw [hsame.cacheDevices]
    exact hjoining.attachedOnce k
  own t ht e hdevice := (howner t e hdevice).elim id (hjoining.own t ht e)
  made t ht := hsame.lasting.holds_tag (hjoining.made t ht)

theorem of_sameIndex (hsame : SameIndex store after) : after.Joining c d waiting :=
  hjoining.of_sameMembers hsame.sameMembers (hjoining.linked.of_sameLinks hsame.toSameLinks)
    fun t _ hdevice => .inr ((hsame.tagDevice t).symm.trans hdevice)

theorem not_mem_devices (k : CacheId) : d ∉ (store.cache k).devices :=
  fun hmem => (hjoining.attached k d hmem).2 rfl

theorem owned {t : TagId} (ht : t ∈ (store.device d).tags) : (store.tag t).device = some d :=
  (hjoining.linked.listed d t).mp ht

end Joining

/-- Some device points to a cache that does not list it, and all else is linked and listed. -/
def HalfRegistered (store : Store) : Prop :=
  ∃ c d, store.Joining c d [] ∧ ∀ k, store.RegisteredBut k d

end DeviceTags.Store
