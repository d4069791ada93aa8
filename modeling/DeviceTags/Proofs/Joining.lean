import DeviceTags.HandEdit
import DeviceTags.Proofs.Index.Joining
import DeviceTags.Proofs.ProbeOnce
import DeviceTags.Proofs.Supply

/-!
# Devices that are pointed to a cache by hand

Such a device is half registered. The tags that it has by then are in no head, and each tag that is
added from then on is linked into the cache. Attaching the device completes the index.
-/

namespace DeviceTags

open Store (SameMembers)

variable {memory : Memory} {store after : Store} {c : CacheId} {d : DeviceId} {waiting : List TagId}

namespace Store.Joining

variable (hjoining : store.Joining c d waiting)

include hjoining

theorem taggable : store.Taggable d where
  linked := ⟨_, _, hjoining.linked⟩
  held := holds_device_of_cache hjoining.pointed
  cacheHeld k hk := by
    rw [hjoining.pointed] at hk
    cases hk
    exact hjoining.held

/-- A tag that is added is linked, and one that is deleted leaves its head if it is in one. -/
theorem setTag (name : String) (value : Option String) (replace : Bool) :
    (store.setTag d name value replace).Joining c d waiting := by
  obtain ⟨-, hd, hheld⟩ := hjoining.taggable
  refine hjoining.of_sameMembers
    (hjoining.linked.sameMembers_setTag hd hheld name value replace) ?_ fun t e hdevice => ?_
  · exact hjoining.linked.setTag hd rfl hheld hjoining.made name value replace
  · exact owner_setTag store d name value replace hdevice

end Store.Joining

/-! ## Calls that set tags -/

namespace Turn

/-- The turn sets a tag of the device, with whatever arguments. -/
def Tags (turn : Turn) (d : DeviceId) : Prop :=
  ∃ name value replace, turn.action = .setTag (some d) name value replace

/-- The call has its effect, or it fails and restores the store. -/
theorem Tags.after_cases {turn : Turn} (htags : turn.Tags d) (htaggable : memory.store.Taggable d) :
    (∃ name value replace, (turn.after memory).store = memory.store.setTag d name value replace) ∨
      memory.store.Restored (turn.after memory).store := by
  obtain ⟨name, value, replace, haction⟩ := htags
  rw [Turn.after, haction]
  refine Does.after (fun after => (∃ name value replace,
    after.store = memory.store.setTag d name value replace) ∨
      memory.store.Restored after.store) ?_
  have hgiven : ∀ e ∈ some d, (turn.start memory).store.Taggable e := by
    rintro e ⟨⟩
    exact htaggable
  refine (does_set hgiven name value replace).mono (fun _ after hafter => ?_)
    fun _ after hafter => .inr hafter.1
  obtain ⟨e, ⟨⟩, n, v, hstore⟩ := hafter
  exact .inl ⟨n, v, replace, hstore⟩

theorem Tags.sameMembers {turn : Turn} (htags : turn.Tags d)
    (htaggable : memory.store.Taggable d) :
    SameMembers memory.store (turn.after memory).store := by
  obtain ⟨⟨home, waiting, hlinked⟩, hd, hheld⟩ := htaggable
  rcases htags.after_cases ⟨⟨home, waiting, hlinked⟩, hd, hheld⟩ with
    ⟨name, value, replace, hset⟩ | hrestored
  · rw [hset]
    exact hlinked.sameMembers_setTag hd hheld name value replace
  · exact hrestored.sameIndex.sameMembers

theorem Tags.joining {turn : Turn} (htags : turn.Tags d)
    (hjoining : memory.store.Joining c d waiting) :
    (turn.after memory).store.Joining c d waiting := by
  rcases htags.after_cases hjoining.taggable with ⟨name, value, replace, hset⟩ | hrestored
  · rw [hset]
    exact hjoining.setTag name value replace
  · exact hjoining.of_sameIndex hrestored.sameIndex

end Turn

/-! ## The whole story -/

end DeviceTags
