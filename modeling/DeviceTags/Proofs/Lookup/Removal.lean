import DeviceTags.Proofs.Lookup.Arbitration
import DeviceTags.Proofs.Store.Removed

/-!
# Listings after a removal

A listing takes the owners of the matching entries, each once, and sorts them by rank. The removal of
a device takes its entries out of every head and leaves the order of the others, so that every
listing loses that device and nothing else.
-/

namespace DeviceTags

theorem pairwise_idxOf_lt {α : Type} [DecidableEq α] {l : List α} (honce : l.Nodup) :
    l.Pairwise fun a b => l.idxOf a < l.idxOf b := by
  rw [List.pairwise_iff_getElem]
  intro i j hi hj hlt
  rwa [honce.idxOf_getElem i hi, honce.idxOf_getElem j hj]

/-- Sorting a list without repetitions and picking elements can be done in either order. -/
theorem filter_mergeSort {α : Type} [DecidableEq α] (le : α → α → Bool) {l : List α}
    (htrans : ∀ a b c, le a b → le b c → le a c) (htotal : ∀ a b, le a b || le b a)
    (honce : l.Nodup) (p : α → Bool) :
    (l.mergeSort le).filter p = (l.filter p).mergeSort le := by
  have horder := pairwise_idxOf_lt honce
  have hwhole := pairwise_mergeSort_stable le htrans htotal honce horder
  have hpart := pairwise_mergeSort_stable le htrans htotal (honce.filter p) (horder.filter p)
  have hperm : ((l.mergeSort le).filter p).Perm ((l.filter p).mergeSort le) :=
    ((List.mergeSort_perm l le).filter p).trans (List.mergeSort_perm _ le).symm
  -- Elements that reach each other stand before each other, which no two elements do.
  refine List.Perm.eq_of_pairwise (fun a b _ _ hab hba => ?_) (hwhole.filter p) hpart hperm
  exact absurd (hab.2 hba.1) (Nat.lt_asymm (hba.2 hab.1))

namespace Lookup

variable {store before after : Store} {c : CacheId} {d : DeviceId} {name value : String}
  {ts : List TagId}

/-! ## Owners -/

theorem distinctOwners_congr (hsame : ∀ t ∈ ts, (after.tag t).device = (before.tag t).device) :
    distinctOwners after ts = distinctOwners before ts := by
  induction ts using List.reverseRecOn with
  | nil => rfl
  | append_singleton ts t ih =>
    rw [distinctOwners_concat, distinctOwners_concat, hsame t (by simp),
      ih fun u hu => hsame u (List.mem_append_left _ hu)]

/-- Without the entries of one owner, the others are met in the same order. -/
theorem distinctOwners_filter (store : Store) (ts : List TagId) (owner : Option DeviceId) :
    distinctOwners store (ts.filter fun t => (store.tag t).device ≠ owner) =
      (distinctOwners store ts).filter (· ≠ owner) := by
  induction ts using List.reverseRecOn with
  | nil => rfl
  | append_singleton ts t ih =>
    rw [distinctOwners_concat, List.filter_append]
    by_cases howner : (store.tag t).device = owner
    · rw [List.filter_cons_of_neg (by simpa using howner), List.filter_nil, List.append_nil, ih]
      split
      · rfl
      · rw [List.filter_append, List.filter_cons_of_neg (by simpa using howner), List.filter_nil,
          List.append_nil]
    · rw [List.filter_cons_of_pos (by simpa using howner), List.filter_nil, distinctOwners_concat,
        ih]
      have hmet : (store.tag t).device ∈ (distinctOwners store ts).filter (· ≠ owner) ↔
          (store.tag t).device ∈ distinctOwners store ts := by
        simp [howner]
      by_cases hmem : (store.tag t).device ∈ distinctOwners store ts
      · rw [if_pos (hmet.mpr hmem), if_pos hmem]
      · rw [if_neg fun h => hmem (hmet.mp h), if_neg hmem, List.filter_append,
          List.filter_cons_of_pos (by simpa using howner), List.filter_nil]

/-! ## What is listed -/

/-- The entries of a sound store have owners, which a listing takes each once. -/
theorem exists_owners_of_matching (hsound : store.Sound) (c : CacheId) (name value : String) :
    ∃ owners : List DeviceId, distinctOwners store (store.matching c name value) = owners.map some ∧
      owners.Nodup ∧ ∀ d, d ∈ owners ↔
        ∃ t ∈ store.matching c name value, (store.tag t).device = some d := by
  obtain ⟨owners, howners⟩ :=
    exists_map_some (l := distinctOwners store (store.matching c name value)) fun o ho => by
      obtain ⟨t, ht, rfl⟩ := mem_distinctOwners.mp ho
      exact (owner_of_sound hsound ht).imp fun _ hd => hd.1
  refine ⟨owners, howners, ?_, fun d => ?_⟩
  · have honce := nodup_distinctOwners store (store.matching c name value)
    rw [howners] at honce
    exact honce.of_map
  · rw [← mem_distinctOwners, howners]
    simp

/-- A listing has devices that point to the cache and carry the pair, each once. -/
theorem exists_listing (hsound : store.Sound) (c : CacheId) (name value : String) :
    ∃ listed, listing store c name value = .ok listed ∧ listed.Nodup ∧
      ∀ d ∈ listed, (store.device d).cache = some c ∧ store.hasPair d name value = true := by
  obtain ⟨owners, howners, honce, hmem⟩ := exists_owners_of_matching hsound c name value
  refine ⟨_, listing_of_owners howners, (List.mergeSort_perm _ _).nodup_iff.mpr honce,
    fun d hd => ?_⟩
  obtain ⟨t, ht, howner⟩ := (hmem d).mp (List.mem_mergeSort.mp hd)
  obtain ⟨hentry, hvalue⟩ := List.mem_filter.mp ht
  obtain ⟨hname, e, he, hcache⟩ := hsound.of_mem_entries hentry
  rw [howner] at he
  cases he
  refine ⟨hcache, List.any_eq_true.mpr ⟨t, ?_, ?_⟩⟩
  · exact (hsound.linked.listed d t).mpr howner
  · exact decide_eq_true ⟨hname, of_decide_eq_true hvalue⟩

theorem of_listing {devices : List DeviceId} (hsound : store.Sound)
    (hlisting : listing store c name value = .ok devices) : devices.Nodup ∧
      ∀ d ∈ devices, (store.device d).cache = some c ∧ store.hasPair d name value = true := by
  obtain ⟨listed, hlisted, hcarried⟩ := exists_listing hsound c name value
  cases hlisting.symm.trans hlisted
  exact hcarried

/-- Owners that are met in the order of their ranks are listed in that order. -/
theorem listing_of_sorted {devices : List DeviceId}
    (howners : distinctOwners store (store.matching c name value) = devices.map some)
    (hsorted : devices.Pairwise fun d e => store.rank e ≤ store.rank d) :
    listing store c name value = .ok devices := by
  rw [listing_of_owners howners, List.mergeSort_of_pairwise (by simpa using hsorted)]

/-- A store with the same links, values and priorities has the same listings. -/
theorem listing_of_sameLinks (hsame : Store.SameLinks before after)
    (hvalue : ∀ t, (after.tag t).value = (before.tag t).value)
    (hpriority : ∀ d, (after.device d).priority = (before.device d).priority) (c : CacheId)
    (name value : String) : listing after c name value = listing before c name value := by
  have howners : ∀ ts, distinctOwners after ts = distinctOwners before ts :=
    fun ts => distinctOwners_congr fun t _ => hsame.tagDevice t
  unfold listing
  rw [hsame.headOf?]
  simp only [entriesWith, hsame.headTags, hvalue, howners, Store.rank, hpriority]
  rfl

theorem listing_of_unseen (hunseen : Store.Unseen before after) (c : CacheId)
    (name value : String) : listing after c name value = listing before c name value :=
  listing_of_sameLinks hunseen.toSameLinks hunseen.tagValue hunseen.devicePriority c name value

/-- The entries of other devices are as they were. -/
theorem tag_of_removed (hsound : before.Sound) (hremoved : Store.Removed before after d)
    {t : TagId} (ht : t ∈ before.entries c name) (hother : (before.tag t).device ≠ some d) :
    after.tag t = before.tag t := by
  obtain ⟨-, e, howner, -⟩ := hsound.of_mem_entries ht
  have he : e ≠ d := by
    rintro rfl
    exact hother howner
  exact (hremoved.others e he).tags t ((hsound.linked.listed e t).mpr howner)

/-- Where a device was removed, the matching entries are those of the other devices. -/
theorem matching_of_removed (hsound : before.Sound) (hremoved : Store.Removed before after d)
    (c : CacheId) (name value : String) :
    after.matching c name value = (before.matching c name value).filter fun t =>
      (before.tag t).device ≠ some d := by
  have hentries : after.entries c name =
      (before.entries c name).filter fun t => (before.tag t).device ≠ some d := by
    have hhead : after.headOf? c name = before.headOf? c name := by
      rw [Store.headOf?, hremoved.heads, Store.headOf?]
    unfold Store.entries
    rw [hhead]
    cases before.headOf? c name with
    | none => rfl
    | some h => exact hremoved.entries h
  rw [Store.matching, hentries, Store.matching, List.filter_filter, List.filter_filter]
  refine List.filter_congr fun t ht => ?_
  by_cases hother : (before.tag t).device = some d
  · simp [hother]
  · rw [tag_of_removed hsound hremoved ht hother, Bool.and_comm]

/-- A device that was removed is listed no longer; the others are, in the same order. -/
theorem listing_of_removed (hsound : before.Sound) (hremoved : Store.Removed before after d)
    (c : CacheId) (name value : String) :
    ∃ listed, listing before c name value = .ok listed ∧
      listing after c name value = .ok (listed.filter (· ≠ d)) := by
  obtain ⟨owners, howners, honce, -⟩ := exists_owners_of_matching hsound c name value
  have hkept : distinctOwners after (after.matching c name value) =
      distinctOwners before (after.matching c name value) := by
    refine distinctOwners_congr fun t ht => ?_
    rw [matching_of_removed hsound hremoved] at ht
    obtain ⟨hmatching, hother⟩ := List.mem_filter.mp ht
    rw [tag_of_removed hsound hremoved (List.mem_filter.mp hmatching).1 (of_decide_eq_true hother)]
  have hleft : distinctOwners after (after.matching c name value) =
      (owners.filter (· ≠ d)).map some := by
    rw [hkept, matching_of_removed hsound hremoved, distinctOwners_filter, howners,
      List.filter_map]
    refine congrArg (List.map some) (List.filter_congr fun e _ => ?_)
    simp
  have hrank : ∀ e, after.rank e = before.rank e := by
    intro e
    by_cases he : e = d
    · rw [Store.rank, he, hremoved.device, Store.rank]
    · rw [Store.rank, (hremoved.others e he).record, Store.rank]
  refine ⟨_, listing_of_owners howners, ?_⟩
  rw [listing_of_owners hleft, filter_mergeSort]
  · simp only [hrank]
  · simp only [decide_eq_true_eq]
    omega
  · simp only [Bool.or_eq_true, decide_eq_true_eq]
    omega
  · exact honce

end Lookup

end DeviceTags
