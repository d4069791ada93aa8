import DeviceTags.Proofs.Index.Arrival
import DeviceTags.Proofs.Lookup.Candidate
import Mathlib.Data.List.Induction

/-!
# The index lists what a scan finds

Without the heads, the devices that carry a pair are found by looking at every device that is
attached to the cache, and ordered by rank and then by the moment at which the first of their tags
with that pair arrived. The index gives the same list in every state that a run leads to.
-/

namespace DeviceTags

open Store (Sound)

namespace Store

/-- A tag of a device that carries a name with a value. -/
def carries (store : Store) (d : DeviceId) (name value : String) (t : TagId) : Bool :=
  (store.device d).tags.contains t && (store.tag t).name = name && (store.tag t).value = value

/-- When the first of the tags of a device arrived that carry a name with a value. -/
def moment (store : Store) (arrivals : List TagId) (name value : String) (d : DeviceId) : Nat :=
  arrivals.findIdx (store.carries d name value)

/-- A device of higher rank is listed first, and of equal rank the one that came first. -/
def isListedFirst (store : Store) (arrivals : List TagId) (name value : String)
    (d e : DeviceId) : Bool :=
  store.rank e < store.rank d ∨ store.rank d = store.rank e ∧
    store.moment arrivals name value d ≤ store.moment arrivals name value e

/-- The devices that point to a cache, in the order in which they were made. -/
def attachedTo (store : Store) (c : CacheId) : List DeviceId :=
  ((List.range store.devices.size).map Id.mk).filter fun d => (store.device d).cache = some c

/-- Those of the given devices that carry a name with a value, found without the index. -/
def scan (store : Store) (arrivals : List TagId) (devices : List DeviceId) (name value : String) :
    List DeviceId :=
  (devices.filter (store.hasPair · name value)).mergeSort (store.isListedFirst arrivals name value)

theorem mem_attachedTo {store : Store} {c : CacheId} {d : DeviceId} :
    d ∈ store.attachedTo c ↔ (store.device d).cache = some c := by
  have hmade : (∃ n, n < store.devices.size ∧ Id.mk n = d) ↔ store.devices.Holds d := by
    constructor
    · rintro ⟨n, hn, rfl⟩
      exact hn
    · exact fun hd => ⟨d.index, hd, rfl⟩
  simp only [attachedTo, List.mem_filter, List.mem_map, List.mem_range, hmade, decide_eq_true_eq,
    and_iff_right_iff_imp]
  exact holds_device_of_cache

theorem nodup_attachedTo (store : Store) (c : CacheId) : (store.attachedTo c).Nodup := by
  refine List.Nodup.filter _ (List.Nodup.map (fun i j hij => ?_) List.nodup_range)
  cases hij
  rfl

end Store

/-! ## Lists -/

section Lists

variable {α : Type}

/-- Sorting a list without repetitions keeps the order in which equal elements stand in it. -/
theorem pairwise_mergeSort_stable {before : α → α → Prop} (le : α → α → Bool) {l : List α}
    (htrans : ∀ a b c, le a b → le b c → le a c) (htotal : ∀ a b, le a b || le b a)
    (honce : l.Nodup) (horder : l.Pairwise before) :
    (l.mergeSort le).Pairwise fun a b => le a b ∧ (le b a → before a b) := by
  have hdistinct : (l.mergeSort le).Nodup := (List.mergeSort_perm l le).nodup_iff.mpr honce
  rw [← List.mergeSort_zipIdx] at hdistinct ⊢
  rw [List.Nodup, List.pairwise_map] at hdistinct
  rw [List.pairwise_map]
  have hsorted := List.pairwise_mergeSort (List.zipIdxLE_trans htrans)
    (List.zipIdxLE_total htotal) l.zipIdx
  refine (hsorted.and hdistinct).imp_of_mem ?_
  rintro ⟨a, i⟩ ⟨b, j⟩ ha hb ⟨hle, hne⟩
  rw [List.mem_mergeSort, List.mem_zipIdx_iff_getElem?] at ha hb
  dsimp only at ha hb hne
  obtain ⟨hi, rfl⟩ := List.getElem?_eq_some_iff.mp ha
  obtain ⟨hj, rfl⟩ := List.getElem?_eq_some_iff.mp hb
  unfold List.zipIdxLE at hle
  split at hle
  · next hab =>
    refine ⟨hab, fun hba => ?_⟩
    rw [if_pos hba] at hle
    have hij : i ≤ j := of_decide_eq_true hle
    have hdiffer : i ≠ j := by
      rintro rfl
      exact hne rfl
    exact List.pairwise_iff_getElem.mp horder i j hi hj (by omega)
  · cases hle

/-- A part of a list without repetitions is what one gets by picking its elements. -/
theorem filter_mem_of_sublist [DecidableEq α] {part whole : List α} (hpart : part.Sublist whole)
    (honce : whole.Nodup) : whole.filter (· ∈ part) = part := by
  induction hpart with
  | slnil => rfl
  | @cons part whole a hpart ih =>
    rw [List.nodup_cons] at honce
    have hout : a ∉ part := fun ha => honce.1 (hpart.subset ha)
    rw [List.filter_cons_of_neg (by simpa using hout), ih honce.2]
  | @cons_cons part whole a hpart ih =>
    rw [List.nodup_cons] at honce
    rw [List.filter_cons_of_pos (by simp)]
    have hsame : whole.filter (· ∈ a :: part) = whole.filter (· ∈ part) := by
      refine List.filter_congr fun b hb => ?_
      have hne : b ≠ a := ne_of_mem_of_not_mem hb honce.1
      simp [hne]
    rw [hsame, ih honce.2]

theorem mapM_id_map_some (l : List α) : (l.map some).mapM id = some l := by
  induction l with
  | nil => rfl
  | cons a rest ih => simp [List.mapM_cons, ih]

theorem exists_map_some {l : List (Option α)} (hsome : ∀ o ∈ l, ∃ a, o = some a) :
    ∃ values : List α, l = values.map some := by
  induction l with
  | nil => exact ⟨[], rfl⟩
  | cons o rest ih =>
    obtain ⟨a, rfl⟩ := hsome o List.mem_cons_self
    obtain ⟨values, rfl⟩ := ih fun p hp => hsome p (List.mem_cons_of_mem _ hp)
    exact ⟨a :: values, rfl⟩

end Lists

/-! ## Owners in the order of their first tag -/

namespace Lookup

variable (store : Store)

/-- Where an owner is met first among the picked tags of a list. -/
def firstMet (ts : List TagId) (picked : TagId → Bool) (owner : Option DeviceId) : Nat :=
  ts.findIdx fun t => picked t && (store.tag t).device = owner

/-- The owners of picked tags are distinct, and in the order in which they are met first. -/
structure MetInOrder (ts : List TagId) (picked : TagId → Bool) (owners : List (Option DeviceId)) :
    Prop where
  once : owners.Nodup
  mem : ∀ owner, owner ∈ owners ↔ ∃ t ∈ ts, picked t ∧ (store.tag t).device = owner
  inOrder : owners.Pairwise fun owner other =>
    firstMet store ts picked owner < firstMet store ts picked other

variable {store} in
theorem firstMet_concat_of_lt {ts : List TagId} {picked : TagId → Bool} {owner : Option DeviceId}
    (hmet : firstMet store ts picked owner < ts.length) (t : TagId) :
    firstMet store (ts ++ [t]) picked owner = firstMet store ts picked owner := by
  rw [firstMet, List.findIdx_append]
  exact if_pos hmet

variable {store} in
theorem le_firstMet_concat {ts : List TagId} {picked : TagId → Bool} {owner : Option DeviceId}
    (hmissing : ¬ firstMet store ts picked owner < ts.length) (t : TagId) :
    ts.length ≤ firstMet store (ts ++ [t]) picked owner := by
  unfold firstMet at *
  rw [List.findIdx_append, if_neg hmissing]
  omega

theorem distinctOwners_concat (entries : List TagId) (t : TagId) :
    distinctOwners store (entries ++ [t]) =
      if (store.tag t).device ∈ distinctOwners store entries then distinctOwners store entries
      else distinctOwners store entries ++ [(store.tag t).device] := by
  simp [distinctOwners, List.foldl_append]

theorem metInOrder_distinctOwners (ts : List TagId) (picked : TagId → Bool) :
    MetInOrder store ts picked (distinctOwners store (ts.filter picked)) := by
  -- From the end of the list, since an owner that is met later stands behind the others.
  induction ts using List.reverseRecOn with
  | nil => exact ⟨List.nodup_nil, by simp [distinctOwners], List.Pairwise.nil⟩
  | append_singleton ts t ih =>
    have hkept : ∀ owner ∈ distinctOwners store (ts.filter picked),
        firstMet store ts picked owner < ts.length ∧
          firstMet store (ts ++ [t]) picked owner = firstMet store ts picked owner := by
      intro owner howner
      obtain ⟨u, hu, hpicked, hdevice⟩ := (ih.mem owner).mp howner
      have hlt : firstMet store ts picked owner < ts.length :=
        List.findIdx_lt_length_of_exists ⟨u, hu, by simp [hpicked, hdevice]⟩
      exact ⟨hlt, firstMet_concat_of_lt hlt t⟩
    have horder : (distinctOwners store (ts.filter picked)).Pairwise fun owner other =>
        firstMet store (ts ++ [t]) picked owner < firstMet store (ts ++ [t]) picked other := by
      refine ih.inOrder.imp_of_mem fun howner hother hlt => ?_
      rw [(hkept _ howner).2, (hkept _ hother).2]
      exact hlt
    rw [List.filter_append]
    by_cases hpicked : picked t
    · rw [List.filter_cons_of_pos hpicked, List.filter_nil, distinctOwners_concat]
      split
      · next hmet =>
        refine ⟨ih.once, fun owner => ?_, horder⟩
        rw [ih.mem] at hmet ⊢
        simp only [List.mem_append, List.mem_singleton, or_and_right, exists_or, exists_eq_left]
        constructor
        · exact .inl
        · rintro (hold | ⟨-, rfl⟩)
          · exact hold
          · exact hmet
      · next hmet =>
        constructor
        case once =>
          rw [List.nodup_append]
          refine ⟨ih.once, List.nodup_singleton _, fun owner howner other hother => ?_⟩
          rw [List.mem_singleton.mp hother]
          exact ne_of_mem_of_not_mem howner hmet
        case mem =>
          intro owner
          simp only [List.mem_append, List.mem_singleton, ih.mem, or_and_right, exists_or,
            exists_eq_left, hpicked, true_and]
          rw [@eq_comm _ owner]
        case inOrder =>
          rw [List.pairwise_append]
          refine ⟨horder, List.pairwise_singleton _ _, fun owner howner other hother => ?_⟩
          rw [List.mem_singleton.mp hother, (hkept owner howner).2]
          have hmissing : ¬ firstMet store ts picked (store.tag t).device < ts.length := by
            intro hlt
            obtain ⟨u, hu, hfound⟩ := List.findIdx_lt_length.mp hlt
            rw [Bool.and_eq_true, decide_eq_true_eq] at hfound
            exact hmet ((ih.mem _).mpr ⟨u, hu, hfound⟩)
          exact Nat.lt_of_lt_of_le (hkept owner howner).1 (le_firstMet_concat hmissing t)
    · rw [List.filter_cons_of_neg hpicked, List.filter_nil, List.append_nil]
      refine ⟨ih.once, fun owner => ?_, horder⟩
      rw [ih.mem]
      simp [or_and_right, exists_or, hpicked]

end Lookup

/-! ## The listing -/

namespace Store

variable {store : Store} {arrivals : List TagId} {c : CacheId} {h : HeadId} {name value : String}

theorem carries_eq_true_iff (d : DeviceId) (t : TagId) :
    store.carries d name value t ↔
      t ∈ (store.device d).tags ∧ (store.tag t).name = name ∧ (store.tag t).value = value := by
  simp [carries, and_assoc]

theorem hasPair_iff (d : DeviceId) :
    store.hasPair d name value ↔ ∃ t, store.carries d name value t := by
  simp [hasPair, carries_eq_true_iff]

/-- The tag is an entry of a head and has a value. -/
def picks (store : Store) (h : HeadId) (value : String) (t : TagId) : Bool :=
  (store.head h).tags.contains t && (store.tag t).value = value

theorem picks_eq_true_iff (t : TagId) :
    store.picks h value t ↔ t ∈ (store.head h).tags ∧ (store.tag t).value = value := by
  simp [picks]

/-- All entries arrived, so the entries with a value can be picked among the arrivals. -/
theorem Arrived.entriesWith_eq (harrived : store.Arrived arrivals) (h : HeadId) (value : String) :
    Lookup.entriesWith store h value = arrivals.filter (store.picks h value) := by
  have hall := filter_mem_of_sublist (harrived.entered h) harrived.once
  rw [Lookup.entriesWith, ← hall, List.filter_filter]
  refine List.filter_congr fun t _ => ?_
  simp [picks, Bool.and_comm]

section Head

variable (hsound : store.Sound) (hfound : store.headOf? c name = some h)

include hsound hfound

/-- On a device of the cache, the tags with a pair are its entries with the value in the head. -/
theorem Sound.carries_eq {d : DeviceId} (hcache : (store.device d).cache = some c) (t : TagId) :
    store.carries d name value t =
      (store.picks h value t && (store.tag t).device = some d) := by
  rw [Bool.eq_iff_iff, carries_eq_true_iff, Bool.and_eq_true, picks_eq_true_iff,
    decide_eq_true_eq]
  constructor
  · rintro ⟨hlisted, rfl, rfl⟩
    obtain ⟨k, hk, hhead⟩ := hsound.head_of_attached hcache hlisted
    rw [hfound] at hk
    cases hk
    exact ⟨⟨(hsound.linked.entered h t).mpr hhead, rfl⟩, (hsound.linked.listed d t).mp hlisted⟩
  · rintro ⟨⟨hentry, rfl⟩, howner⟩
    exact ⟨(hsound.linked.listed d t).mpr howner,
      (hsound.owner_of_entry (mem_heads_of_headOf? hfound) hentry).1, rfl⟩

theorem Sound.owner_of_picks {t : TagId} (hpicks : store.picks h value t) :
    ∃ d, (store.tag t).device = some d ∧ (store.device d).cache = some c := by
  have hentry : t ∈ (store.head h).tags := ((picks_eq_true_iff t).mp hpicks).1
  exact (hsound.owner_of_entry (mem_heads_of_headOf? hfound) hentry).2

/-- A device of the cache carries a pair if and only if it is met among the picked arrivals. -/
theorem Sound.hasPair_iff_met (harrived : store.Arrived arrivals) {d : DeviceId}
    (hcache : (store.device d).cache = some c) :
    store.hasPair d name value ↔
      ∃ t ∈ arrivals, store.picks h value t ∧ (store.tag t).device = some d := by
  rw [hasPair_iff]
  constructor
  · rintro ⟨t, hcarried⟩
    rw [hsound.carries_eq hfound hcache, Bool.and_eq_true, decide_eq_true_eq] at hcarried
    have hentry : t ∈ (store.head h).tags := ((picks_eq_true_iff t).mp hcarried.1).1
    exact ⟨t, (harrived.entered h).subset hentry, hcarried⟩
  · rintro ⟨t, -, hpicks, howner⟩
    refine ⟨t, ?_⟩
    rw [hsound.carries_eq hfound hcache, hpicks, howner]
    simp

theorem Sound.moment_eq_firstMet (arrivals : List TagId) {d : DeviceId}
    (hcache : (store.device d).cache = some c) :
    store.moment arrivals name value d =
      Lookup.firstMet store arrivals (store.picks h value) (some d) := by
  rw [moment, Lookup.firstMet, funext (hsound.carries_eq hfound hcache)]

/-- The owners of the entries with a value, in the order of the head: the devices that point to the
cache and carry the pair, by moment. -/
theorem Sound.exists_owners (harrived : store.Arrived arrivals) (value : String) :
    ∃ owners : List DeviceId,
      Lookup.distinctOwners store (Lookup.entriesWith store h value) = owners.map some ∧
      owners.Nodup ∧
      (∀ d, d ∈ owners ↔ (store.device d).cache = some c ∧ store.hasPair d name value) ∧
      owners.Pairwise fun d e =>
        store.moment arrivals name value d < store.moment arrivals name value e := by
  have hmet := Lookup.metInOrder_distinctOwners store arrivals (store.picks h value)
  rw [← harrived.entriesWith_eq] at hmet
  have hattached : ∀ o ∈ Lookup.distinctOwners store (Lookup.entriesWith store h value),
      ∃ d, o = some d ∧ (store.device d).cache = some c := by
    intro o ho
    obtain ⟨t, -, hpicks, rfl⟩ := (hmet.mem o).mp ho
    exact hsound.owner_of_picks hfound hpicks
  obtain ⟨owners, howners⟩ := exists_map_some fun o ho => (hattached o ho).imp fun _ hd => hd.1
  rw [howners] at hmet hattached
  have hcache : ∀ d ∈ owners, (store.device d).cache = some c := by
    intro d hd
    obtain ⟨e, he, hhome⟩ := hattached (some d) (List.mem_map_of_mem hd)
    cases he
    exact hhome
  have hmem : ∀ d, d ∈ owners ↔ some d ∈ owners.map some := by simp
  refine ⟨owners, howners, hmet.once.of_map, fun d => ?_, ?_⟩
  · constructor
    · intro hd
      refine ⟨hcache d hd, (hsound.hasPair_iff_met hfound harrived (hcache d hd)).mpr ?_⟩
      exact (hmet.mem (some d)).mp ((hmem d).mp hd)
    · rintro ⟨hhome, hpair⟩
      refine (hmem d).mpr ((hmet.mem (some d)).mpr ?_)
      exact (hsound.hasPair_iff_met hfound harrived hhome).mp hpair
  · have horder := hmet.inOrder
    rw [List.pairwise_map] at horder
    refine horder.imp_of_mem fun hd he hlt => ?_
    rw [hsound.moment_eq_firstMet hfound arrivals (hcache _ hd),
      hsound.moment_eq_firstMet hfound arrivals (hcache _ he)]
    exact hlt

end Head

/-- The comparison by rank and moment is that of a sort. -/
theorem isListedFirst_trans (d e f : DeviceId) :
    store.isListedFirst arrivals name value d e → store.isListedFirst arrivals name value e f →
      store.isListedFirst arrivals name value d f := by
  simp only [isListedFirst, decide_eq_true_eq]
  omega

theorem isListedFirst_total (d e : DeviceId) :
    store.isListedFirst arrivals name value d e || store.isListedFirst arrivals name value e d := by
  simp only [isListedFirst, Bool.or_eq_true, decide_eq_true_eq]
  omega

/-- Devices by moment, sorted by rank, are devices sorted by rank and moment. -/
theorem mergeSort_eq_scan {owners devices : List DeviceId} (honce : owners.Nodup)
    (hdevices : devices.Nodup)
    (hmem : ∀ d, d ∈ owners ↔ d ∈ devices ∧ store.hasPair d name value)
    (horder : owners.Pairwise fun d e =>
      store.moment arrivals name value d < store.moment arrivals name value e) :
    owners.mergeSort (fun d e => store.rank e ≤ store.rank d) =
      store.scan arrivals devices name value := by
  have hstable := pairwise_mergeSort_stable (fun d e => store.rank e ≤ store.rank d)
    (by simp only [decide_eq_true_eq]; omega)
    (by simp only [Bool.or_eq_true, decide_eq_true_eq]; omega) honce horder
  have hfirst : (owners.mergeSort fun d e => store.rank e ≤ store.rank d).Pairwise
      (store.isListedFirst arrivals name value · ·) := by
    refine hstable.imp fun {d e} hranked => ?_
    simp only [decide_eq_true_eq] at hranked
    simp only [isListedFirst, decide_eq_true_eq]
    omega
  have hscan : (store.scan arrivals devices name value).Pairwise
      (store.isListedFirst arrivals name value · ·) :=
    List.pairwise_mergeSort isListedFirst_trans isListedFirst_total _
  have hperm : owners.Perm (devices.filter (store.hasPair · name value)) := by
    rw [List.perm_ext_iff_of_nodup honce (hdevices.filter _)]
    intro d
    rw [hmem, List.mem_filter]
  refine List.Perm.eq_of_pairwise (fun d e hd he hde hed => ?_) hfirst hscan
    ((List.mergeSort_perm _ _).trans (hperm.trans (List.mergeSort_perm _ _).symm))
  -- Devices that are listed before each other have the same moment, and so are the same.
  have hd' : d ∈ owners := List.mem_mergeSort.mp hd
  have he' : e ∈ owners := hperm.mem_iff.mpr (List.mem_mergeSort.mp he)
  have hmoments : (owners.map (store.moment arrivals name value)).Nodup := by
    rw [List.Nodup, List.pairwise_map]
    exact horder.imp Nat.ne_of_lt
  refine List.inj_on_of_nodup_map hmoments hd' he' ?_
  simp only [isListedFirst, decide_eq_true_eq] at hde hed
  omega

/-- The listing by the heads is the scan of the devices that point to the cache. -/
theorem Sound.listing_eq_scan (hsound : store.Sound) (harrived : store.Arrived arrivals)
    {devices : List DeviceId} (hdevices : devices.Nodup)
    (hattached : ∀ d, d ∈ devices ↔ (store.device d).cache = some c) (name value : String) :
    Lookup.listing store c name value = .ok (store.scan arrivals devices name value) := by
  unfold Lookup.listing
  cases hfound : store.headOf? c name with
  | none =>
    have hnone : devices.filter (store.hasPair · name value) = [] := by
      rw [List.filter_eq_nil_iff]
      intro d hd hpair
      obtain ⟨t, hcarried⟩ := (hasPair_iff d).mp hpair
      rw [carries_eq_true_iff] at hcarried
      obtain ⟨hlisted, rfl, -⟩ := hcarried
      obtain ⟨h, hhead, -⟩ := hsound.head_of_attached ((hattached d).mp hd) hlisted
      rw [hfound] at hhead
      cases hhead
    rw [scan, hnone, List.mergeSort_nil]
  | some h =>
    obtain ⟨owners, howners, honce, hmem, horder⟩ := hsound.exists_owners hfound harrived value
    simp only [← hattached] at hmem
    simp only [howners, mapM_id_map_some]
    rw [mergeSort_eq_scan honce hdevices hmem horder]

end Store

/-- In every state that a run leads to, the index lists exactly what a scan over the devices
attached to the cache finds, in the order of the scan and each device once. It makes no difference
whether they are found by where they point or in the list of the cache, if that lists them all. -/
theorem all_eq_scan {memory : Memory} {arrivals : List TagId} (hrun : Run memory arrivals)
    (c : CacheId) {name : String} (hname : name ≠ "") (value : String) :
    Lookup.all (some c) (some name) (some value) memory =
        .ok (memory.store.scan arrivals (memory.store.attachedTo c) name value) memory ∧
      (memory.store.scan arrivals (memory.store.attachedTo c) name value).Nodup ∧
      (memory.store.Registered c →
        memory.store.scan arrivals (memory.store.attachedTo c) name value =
          memory.store.scan arrivals (memory.store.cache c).devices name value) := by
  have hsound := hrun.sound.1
  have hlisting := hsound.listing_eq_scan hrun.arrived (memory.store.nodup_attachedTo c)
    (fun _ => Store.mem_attachedTo) name value
  refine ⟨?_, ?_, fun hregistered => ?_⟩
  · have hlook : Lookup.all (some c) (some name) (some value) memory =
        Tagging.checked (Lookup.listing memory.store c name value) memory := by
      unfold Lookup.all
      rw [Lookup.requireArguments_eq_ok hname]
      rfl
    rw [hlook, hlisting]
    rfl
  · refine (List.mergeSort_perm _ _).nodup_iff.mpr ?_
    exact (memory.store.nodup_attachedTo c).filter _
  · have hlisted := hsound.listing_eq_scan hrun.arrived (hsound.attachedOnce c)
      (fun _ => hsound.mem_devices_iff hregistered) name value
    exact Except.ok.inj (hlisting.symm.trans hlisted)

/-- Of two devices of the same rank the one that was attached first is listed first, although its
tag was made last. -/
theorem all_lateAttached : Lookup.all (some ⟨0⟩) (some "LABEL") (some "data") lateAttached.1 =
    .ok [⟨1⟩, ⟨0⟩] lateAttached.1 := by
  have hscan : lateAttached.1.store.scan lateAttached.2 (lateAttached.1.store.cache ⟨0⟩).devices
      "LABEL" "data" = [⟨1⟩, ⟨0⟩] := by
    have hdevices : (lateAttached.1.store.cache ⟨0⟩).devices.filter
        (lateAttached.1.store.hasPair · "LABEL" "data") = [⟨1⟩, ⟨0⟩] := by decide
    rw [Store.scan, hdevices]
    exact List.mergeSort_of_pairwise (by decide)
  obtain ⟨hall, -, hsame⟩ :=
    all_eq_scan run_lateAttached ⟨0⟩ (show "LABEL" ≠ "" by decide) "data"
  rw [hall, hsame (by decide), hscan]

end DeviceTags
