import DeviceTags.Proofs.Run

/-!
# The order of arrival

Along a run the list of every head is a part of the list of arrivals, in the same order. A tag that
left the index has left its device for good, so no tag arrives twice.
-/

namespace DeviceTags

open Store (Sound)

/-- The heads list tags in the order of their arrival. -/
structure Store.Arrived (store : Store) (arrivals : List TagId) : Prop where
  once : arrivals.Nodup
  held : ∀ t ∈ arrivals, store.tags.Holds t
  entered : ∀ h, (store.head h).tags.Sublist arrivals
  settled : ∀ t ∈ arrivals, (store.tag t).device = none ∨ store.isOnAttached t

namespace Store

variable {store before after : Store}

/-- In a sound store the tags of attached devices are those that a head lists. -/
theorem Sound.isOnAttached_iff (hsound : store.Sound) (t : TagId) :
    store.isOnAttached t ↔ ∃ h, (store.tag t).head = some h := by
  unfold isOnAttached
  constructor
  · intro hattached
    cases howner : (store.tag t).device with
    | none =>
      rw [howner] at hattached
      cases hattached
    | some d =>
      rw [howner] at hattached
      exact Option.isSome_iff_exists.mp
        (hsound.linked.indexed t d howner hattached (by simp))
  · rintro ⟨h, hhead⟩
    obtain ⟨d, c, howner, hcache, -⟩ := hsound.linked.homed t h hhead
    rw [howner]
    exact Option.isSome_iff_exists.mpr ⟨c, hcache⟩

theorem mem_newcomers {t : TagId} :
    t ∈ newcomers before after ↔ after.tags.Holds t ∧ after.isOnAttached t ∧
      ¬ before.isOnAttached t := by
  have hmade : (∃ n, n < after.tags.size ∧ Id.mk n = t) ↔ after.tags.Holds t := by
    constructor
    · rintro ⟨n, hn, rfl⟩
      exact hn
    · exact fun ht => ⟨t.index, ht, rfl⟩
  simp [newcomers, hmade]

/-- Tags that arrive with one operation arrive in the order in which they were made. -/
theorem newcomers_inOrder (before after : Store) :
    (newcomers before after).Pairwise (·.index < ·.index) := by
  refine List.Pairwise.sublist List.filter_sublist ?_
  rw [List.pairwise_map]
  exact List.pairwise_lt_range

/-- What arrives behind the tags that arrived before. -/
theorem Arrived.step {arrivals : List TagId} (harrived : before.Arrived arrivals)
    (hsound : before.Sound) (hsteps : before.Steps after) :
    after.Arrived (arrivals ++ newcomers before after) where
  once := by
    rw [List.nodup_append]
    refine ⟨harrived.once, (newcomers_inOrder before after).nodup, ?_⟩
    rintro t ht u hu rfl
    obtain ⟨-, hnow, hbefore⟩ := mem_newcomers.mp hu
    have hloose := (harrived.settled t ht).resolve_right hbefore
    have hgone := hsteps.progress.gone t (harrived.held t ht) hloose
    rw [isOnAttached, hgone] at hnow
    cases hnow
  held := by
    intro t ht
    rcases List.mem_append.mp ht with hold | hnew
    · exact hsteps.progress.lasting.holds_tag (harrived.held t hold)
    · exact (mem_newcomers.mp hnew).1
  entered := by
    intro h
    obtain ⟨kept, added, htags, hkept, horder, hadded⟩ := hsteps.progress.entries h
    rw [htags]
    refine (hkept.trans (harrived.entered h)).append ?_
    refine List.sublist_of_subperm_of_pairwise ?_ horder (newcomers_inOrder before after)
    refine List.subperm_of_subset horder.nodup fun t ht => ?_
    obtain ⟨hfree, hheld⟩ := hadded t ht
    refine mem_newcomers.mpr ⟨hheld, ?_, ?_⟩
    · refine (hsteps.sound.isOnAttached_iff t).mpr ⟨h, ?_⟩
      rw [← hsteps.sound.linked.entered, htags]
      exact List.mem_append_right _ ht
    · rw [hsound.isOnAttached_iff, hfree]
      rintro ⟨k, hnone⟩
      cases hnone
  settled := by
    intro t ht
    rcases List.mem_append.mp ht with hold | hnew
    · rcases harrived.settled t hold with hloose | hattached
      · exact .inl (hsteps.progress.gone t (harrived.held t hold) hloose)
      · obtain ⟨h, hhead⟩ := (hsound.isOnAttached_iff t).mp hattached
        rcases hsteps.progress.stays t h hhead with hstay | hgone
        · exact .inr ((hsteps.sound.isOnAttached_iff t).mpr ⟨h, hstay⟩)
        · exact .inl hgone
    · exact .inr (mem_newcomers.mp hnew).2.1

end Store

/-- Along every run the heads list tags in the order of their arrival. -/
theorem Run.arrived {memory : Memory} {arrivals : List TagId} (hrun : Run memory arrivals) :
    memory.store.Arrived arrivals := by
  induction hrun with
  | start =>
    refine ⟨List.nodup_nil, by simp, fun h => ?_, by simp⟩
    rw [Store.head_of_not_holds (Nat.not_lt_zero _)]
    exact List.Sublist.refl _
  | @step memory arrivals host supply action hrun hadmissible ih =>
    obtain ⟨hsound, hpackaged⟩ := hrun.sound
    have hsteps := action.steps host { memory with supply } hsound hpackaged hadmissible
    exact ih.step hsound hsteps

end DeviceTags
