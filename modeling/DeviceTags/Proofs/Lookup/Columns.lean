import DeviceTags.Proofs.Lookup.Removal

/-!
# What the index says of a name

Of the entries of a head a listing reads no more than whose they are and which values they have. What
setting a tag does to this column is one of four changes, which concern the entries of the device
alone. So changes that concern different devices can be made in either order, except that two new
entries come in the order in which they were made.
-/

namespace DeviceTags

/-! ## Tables with entries of one key -/

section Tables

variable {κ α : Type} [DecidableEq κ] {k l : κ} {table : List (κ × α)}

theorem mergeEntry_append_of_mem (hmem : k ∈ table.map Prod.fst) (value : α)
    (back : List (κ × α)) :
    mergeEntry k value (table ++ back) = mergeEntry k value table ++ back := by
  induction table with
  | nil => cases hmem
  | cons entry rest ih =>
    rw [List.cons_append, mergeEntry, mergeEntry]
    split
    · rfl
    · next hne =>
      have hrest : k ∈ rest.map Prod.fst :=
        (List.mem_cons.mp hmem).resolve_left fun heq => hne heq.symm
      rw [ih hrest, List.cons_append]

theorem filter_mergeEntry_of_ne (hne : k ≠ l) (value : α) (table : List (κ × α)) :
    (mergeEntry k value table).filter (·.1 ≠ l) = mergeEntry k value (table.filter (·.1 ≠ l)) := by
  induction table with
  | nil => simp [mergeEntry, hne]
  | cons entry rest ih =>
    rw [mergeEntry]
    split
    · next heq => simp [heq, hne, mergeEntry]
    · next hother =>
      by_cases hl : entry.1 = l
      · simpa [hl] using ih
      · simpa [hl, hother, mergeEntry] using ih

/-- Two entries that are there can be changed in either order. -/
theorem mergeEntry_comm (hne : k ≠ l) (hk : k ∈ table.map Prod.fst) (hl : l ∈ table.map Prod.fst)
    (value other : α) : mergeEntry k value (mergeEntry l other table) =
      mergeEntry l other (mergeEntry k value table) := by
  induction table with
  | nil => cases hk
  | cons entry rest ih =>
    by_cases hfirst : entry.1 = k
    · simp [mergeEntry, hfirst, hne]
    · by_cases hsecond : entry.1 = l
      · simp [mergeEntry, hsecond, hne.symm]
      · have hk' := (List.mem_cons.mp hk).resolve_left fun heq => hfirst heq.symm
        have hl' := (List.mem_cons.mp hl).resolve_left fun heq => hsecond heq.symm
        simp [mergeEntry, hfirst, hsecond, ih hk' hl']

end Tables

/-! ## Columns -/

/-- Whose the entries of a name are in the index of a cache and which values they have. -/
def Store.column (store : Store) (c : CacheId) (name : String) :
    List (Option DeviceId × String) :=
  (store.entries c name).map fun t => ((store.tag t).device, (store.tag t).value)

namespace Revision

variable {d e : DeviceId} {revision first second : Revision}
  {before : List (Option DeviceId × String)}

/-- The column of a name after a tag of the name was set on a device. -/
def column (d : DeviceId) (before : List (Option DeviceId × String)) :
    Revision → List (Option DeviceId × String)
  | clearing => before.filter (·.1 ≠ some d)
  | keeping => before
  | rewriting text => mergeEntry (some d) text before
  | adding text => before ++ [(some d, text)]

/-- The entry that is rewritten is there. -/
def Fits (d : DeviceId) (before : List (Option DeviceId × String)) (revision : Revision) : Prop :=
  ∀ text, revision = rewriting text → some d ∈ before.map Prod.fst

theorem filter_column_of_ne (hne : d ≠ e) (revision : Revision)
    (before : List (Option DeviceId × String)) :
    (revision.column d before).filter (·.1 ≠ some e) =
      revision.column d (before.filter (·.1 ≠ some e)) := by
  cases revision with
  | clearing => exact List.filter_comm _ _ _
  | keeping => rfl
  | rewriting text => exact filter_mergeEntry_of_ne (by simpa using hne) text before
  | adding text => simp [column, List.filter_append, hne]

theorem mergeEntry_column (hne : d ≠ e) (hmem : some e ∈ before.map Prod.fst)
    (hfits : Fits d before revision) (text : String) :
    mergeEntry (some e) text (revision.column d before) =
      revision.column d (mergeEntry (some e) text before) := by
  have hsome : some e ≠ some d := fun heq => hne (Option.some.inj heq).symm
  cases revision with
  | clearing => exact (filter_mergeEntry_of_ne hsome text before).symm
  | keeping => rfl
  | rewriting other => exact mergeEntry_comm hsome hmem (hfits other rfl) text other
  | adding other => exact mergeEntry_append_of_mem hmem text _

/-- What is done to the entries of one device and what is done to those of another can be done in
either order, unless both get a new one. -/
theorem column_comm (hne : d ≠ e) (hfirst : Fits d before first) (hsecond : Fits e before second)
    (hsingle : ∀ text other, first = adding text → second ≠ adding other) :
    second.column e (first.column d before) = first.column d (second.column e before) := by
  cases second with
  | clearing => exact filter_column_of_ne hne first before
  | keeping => rfl
  | rewriting text => exact mergeEntry_column hne (hsecond text rfl) hfirst text
  | adding text =>
    cases first with
    | clearing => exact (filter_column_of_ne hne.symm (adding text) before).symm
    | keeping => rfl
    | rewriting other =>
      have hfits : Fits e before (adding text) := fun _ hadding => by cases hadding
      exact (mergeEntry_column hne.symm (hfirst other rfl) hfits other).symm
    | adding other => exact absurd rfl (hsingle other text rfl)

end Revision

namespace Store

variable {store : Store} {c : CacheId} {d : DeviceId} {name : String} {t : TagId}

/-- Of the entries of a device the first tag of the name stands first. -/
theorem Sound.find_entries (hsound : store.Sound) (hcache : (store.device d).cache = some c)
    (name : String) :
    (store.entries c name).find? (fun t => (store.tag t).device = some d) =
      store.firstTag? d name := by
  rw [← List.head?_filter, hsound.sameOrder name hcache, List.head?_filter]
  rfl

theorem column_congr {before after : Store} (hentries : after.entries c name = before.entries c name)
    (htags : ∀ t ∈ before.entries c name, (after.tag t).device = (before.tag t).device ∧
      (after.tag t).value = (before.tag t).value) :
    after.column c name = before.column c name := by
  unfold Store.column
  rw [hentries]
  exact List.map_congr_left fun t ht => by rw [(htags t ht).1, (htags t ht).2]

/-- A value is rewritten only where a tag of the name is there. -/
theorem exists_firstTag? {value : Option String} {replace : Bool} {text : String}
    (hrewriting : Revision.of (store.pairs d) name value replace = .rewriting text) :
    ∃ first, store.firstTag? d name = some first := by
  obtain ⟨hkeeping, -⟩ | ⟨revision, middle, link, hrevision, hprepares, -⟩ :=
    store.setTag_cases d name value replace
  · rw [hkeeping] at hrewriting
    cases hrewriting
  · rw [hrewriting] at hrevision
    subst hrevision
    cases hprepares with
    | rewriting hfirst => exact ⟨_, hfirst⟩

/-- On an attached device what is rewritten is in the column of its cache. -/
theorem Sound.fits_column (hsound : store.Sound) (hcache : (store.device d).cache = some c)
    (name : String) (value : Option String) (replace : Bool) :
    (Revision.of (store.pairs d) name value replace).Fits d (store.column c name) := by
  intro text hrewriting
  obtain ⟨first, hfirst⟩ := exists_firstTag? hrewriting
  have hfound := hsound.find_entries hcache name
  rw [hfirst] at hfound
  have howner : (store.tag first).device = some d := by simpa using List.find?_some hfound
  rw [Store.column, List.map_map, List.mem_map]
  exact ⟨first, List.mem_of_find?_eq_some hfound, howner⟩

section Revised

variable {after : Store} (hsound : store.Sound)

include hsound

theorem Sound.column_cleared
    (hentries : after.entries c name =
      (store.entries c name).filter fun t => (store.tag t).device ≠ some d)
    (htag : ∀ t, t ∉ store.tagsNamed d name → after.tag t = store.tag t) :
    after.column c name = Revision.clearing.column d (store.column c name) := by
  rw [Store.column, hentries, Revision.column, Store.column, List.filter_map]
  refine List.map_congr_left fun t ht => ?_
  rw [htag t fun hnamed => ?_]
  exact of_decide_eq_true (List.mem_filter.mp ht).2 ((hsound.mem_tagsNamed d name).mp hnamed).1

/-- The entry that gets another value is the first one of the device. -/
theorem Sound.column_rewritten (hcache : (store.device d).cache = some c) {first : TagId}
    (hfirst : store.firstTag? d name = some first) {text : String}
    (hentries : after.entries c name = store.entries c name)
    (htag : ∀ t, after.tag t =
      if store.firstTag? d name = some t then { store.tag t with value := text }
      else store.tag t) :
    after.column c name = (Revision.rewriting text).column d (store.column c name) := by
  have hfound := hsound.find_entries hcache name
  rw [hfirst, List.find?_eq_some_iff_append] at hfound
  obtain ⟨howner, front, back, hsplit, hfront⟩ := hfound
  have hbefore : some d ∉ (front.map fun t =>
      ((store.tag t).device, (store.tag t).value)).map Prod.fst := by
    simpa using fun t ht howner => by simpa [howner] using hfront t ht
  have honce : (front ++ first :: back).Nodup := by
    rw [← hsplit]
    unfold Store.entries
    split
    · exact List.nodup_nil
    · exact hsound.linked.enteredOnce _
  have hkept : ∀ t ∈ front ++ back, after.tag t = store.tag t := by
    intro t ht
    rw [htag, if_neg]
    rw [hfirst]
    rintro ⟨⟩
    exact (List.nodup_middle.mp honce).notMem ht
  have hwritten := htag first
  rw [if_pos hfirst] at hwritten
  have hcolumn : store.column c name = (front.map fun t =>
      ((store.tag t).device, (store.tag t).value)) ++ (some d, (store.tag first).value) ::
        back.map fun t => ((store.tag t).device, (store.tag t).value) := by
    rw [Store.column, hsplit, List.map_append, List.map_cons, of_decide_eq_true howner]
  rw [hcolumn, Revision.column, mergeEntry_append_cons hbefore, Store.column, hentries, hsplit,
    List.map_append, List.map_cons, hwritten, ← of_decide_eq_true howner]
  refine congrArg₂ (· ++ _ :: ·) ?_ ?_
  · exact List.map_congr_left fun t ht => by rw [hkept t (List.mem_append_left _ ht)]
  · exact List.map_congr_left fun t ht => by rw [hkept t (List.mem_append_right _ ht)]

theorem Sound.column_added {text : String}
    (hentries : after.entries c name = store.entries c name ++ [store.tags.next])
    (htag : ∀ t, after.tag t = if t = store.tags.next then
      ⟨name, text, some d, (store.device d).cache.map fun c => store.headFor c name⟩
      else store.tag t) :
    after.column c name = (Revision.adding text).column d (store.column c name) := by
  have hold : ∀ t ∈ store.entries c name, after.tag t = store.tag t := by
    intro t ht
    obtain ⟨-, e, howner, -⟩ := hsound.of_mem_entries ht
    exact (htag t).trans (if_neg (Table.ne_next_of_holds (holds_tag_of_device howner)))
  rw [Store.column, hentries, List.map_append, List.map_singleton, htag, if_pos rfl]
  exact congrArg (· ++ _) (List.map_congr_left fun t ht => by rw [hold t ht])

end Revised

/-- Setting a tag changes the column of the name in the cache of the device, and no other. -/
theorem Sound.column_setTag (hsound : store.Sound) (hd : store.devices.Holds d) (name : String)
    (value : Option String) (replace : Bool) (c : CacheId) (other : String) :
    (store.setTag d name value replace).column c other =
      if (store.device d).cache = some c ∧ other = name then
        (Revision.of (store.pairs d) name value replace).column d (store.column c other)
      else store.column c other := by
  have hrevises := hsound.revises_setTag hd name value replace
  have htag := hsound.tag_setTag (d := d) name value replace
  split
  · next hboth =>
    obtain ⟨hcache, rfl⟩ := hboth
    have hentries := hrevises.entries c hcache
    generalize store.setTag d other value replace = after at hrevises htag hentries ⊢
    cases hrevision : Revision.of (store.pairs d) other value replace with
    | clearing =>
      rw [hrevision] at htag hentries
      refine hsound.column_cleared ?_ fun t ht => (htag t).trans (if_neg ht)
      exact hentries.trans (List.filter_congr fun t _ => decide_not.symm)
    | keeping =>
      rw [hrevision] at htag hentries
      exact column_congr hentries fun t _ => by rw [htag t]; exact ⟨rfl, rfl⟩
    | rewriting text =>
      obtain ⟨first, hfirst⟩ := exists_firstTag? hrevision
      rw [hrevision] at htag hentries
      exact hsound.column_rewritten hcache hfirst hentries htag
    | adding text =>
      rw [hrevision] at htag hentries
      exact hsound.column_added hentries htag
  · next hboth =>
    refine column_congr (hrevises.otherEntries c other fun hcache hother => ?_) fun t ht => ?_
    · exact hboth ⟨hcache, hother⟩
    · obtain ⟨hname, e, howner, hcache⟩ := hsound.of_mem_entries ht
      rw [hrevises.otherTags t (holds_tag_of_device howner) fun hown hnamed => ?_]
      · exact ⟨rfl, rfl⟩
      · rw [howner] at hown
        cases hown
        exact hboth ⟨hcache, hname.symm.trans hnamed⟩

end Store

/-! ## Listings -/

namespace Lookup

/-- Two lists without repetitions in which at most two elements stand in another order. -/
structure UpToOrder (d e : DeviceId) (listed other : List DeviceId) : Prop where
  perm : listed.Perm other
  withoutFirst : listed.filter (· ≠ d) = other.filter (· ≠ d)
  withoutSecond : listed.filter (· ≠ e) = other.filter (· ≠ e)

variable {one other : Store} {c : CacheId} {d e : DeviceId} {name value : String}
  {listed swapped : List DeviceId}

theorem UpToOrder.refl (d e : DeviceId) (listed : List DeviceId) : UpToOrder d e listed listed :=
  ⟨.refl _, rfl, rfl⟩

theorem upToOrder_of_filters (hne : d ≠ e) (honce : listed.Nodup) (honce' : swapped.Nodup)
    (hfirst : listed.filter (· ≠ d) = swapped.filter (· ≠ d))
    (hsecond : listed.filter (· ≠ e) = swapped.filter (· ≠ e)) : UpToOrder d e listed swapped := by
  refine ⟨(List.perm_ext_iff_of_nodup honce honce').mpr fun f => ?_, hfirst, hsecond⟩
  by_cases hf : f = d
  · have hmem := congrArg (f ∈ ·) hsecond
    simpa [hf, hne] using hmem
  · have hmem := congrArg (f ∈ ·) hfirst
    simpa [hf] using hmem

/-- Lists that are sorted by rank are the same if the two devices have different ranks. -/
theorem UpToOrder.eq_of_sorted (hupto : UpToOrder d e listed swapped) {rank : DeviceId → Int}
    (honce : listed.Nodup)
    (hlisted : listed.Pairwise fun f g => rank g ≤ rank f)
    (hswapped : swapped.Pairwise fun f g => rank g ≤ rank f) (hrank : rank d ≠ rank e) :
    listed = swapped := by
  have horder := pairwise_idxOf_lt honce
  refine List.Perm.eq_of_pairwise
    (fun f g _ _ hfg hgf => absurd hfg (Nat.lt_asymm hgf)) horder ?_ hupto.perm
  rw [List.pairwise_iff_forall_sublist] at horder ⊢
  intro f g hpair
  by_cases hd : f ≠ d ∧ g ≠ d
  · have hkept := hpair.filter (· ≠ d)
    rw [← hupto.withoutFirst] at hkept
    exact horder (by simpa [hd] using hkept.trans List.filter_sublist)
  · by_cases he : f ≠ e ∧ g ≠ e
    · have hkept := hpair.filter (· ≠ e)
      rw [← hupto.withoutSecond] at hkept
      exact horder (by simpa [he] using hkept.trans List.filter_sublist)
    · -- The pair is that of the two devices, whose ranks tell which comes first.
      have hle : rank g ≤ rank f := List.pairwise_iff_forall_sublist.mp hswapped hpair
      have hdiffer : rank g ≠ rank f := by
        have hboth : (f = d ∧ g = e) ∨ (f = e ∧ g = d) := by grind
        rcases hboth with ⟨rfl, rfl⟩ | ⟨rfl, rfl⟩
        · exact hrank.symm
        · exact hrank
      have hf : f ∈ listed := hupto.perm.mem_iff.mpr (hpair.subset (by simp))
      have hg : g ∈ listed := hupto.perm.mem_iff.mpr (hpair.subset (by simp))
      rcases Nat.lt_trichotomy (listed.idxOf f) (listed.idxOf g) with hlt | heq | hgt
      · exact hlt
      · exact absurd (congrArg rank ((List.idxOf_inj hf).mp heq)).symm hdiffer
      · have hge := List.pairwise_iff_getElem.mp hlisted _ _ (List.idxOf_lt_length_of_mem hg)
          (List.idxOf_lt_length_of_mem hf) hgt
        rw [List.getElem_idxOf, List.getElem_idxOf] at hge
        exact absurd (Int.le_antisymm hle hge) hdiffer

theorem distinctOwners_of_map {ts us : List TagId}
    (hsame : ts.map (fun t => (one.tag t).device) = us.map fun t => (other.tag t).device) :
    distinctOwners one ts = distinctOwners other us := by
  have hfold : ∀ (store : Store) (ts : List TagId), distinctOwners store ts =
      (ts.map fun t => (store.tag t).device).foldl
        (fun found owner => if found.contains owner then found else found ++ [owner]) [] := by
    intro store ts
    rw [List.foldl_map]
    rfl
  rw [hfold, hfold, hsame]

/-- The owners of the matching entries are read off the column. -/
theorem map_matching (store : Store) (c : CacheId) (name value : String)
    (keep : Option DeviceId → Bool) :
    ((store.matching c name value).filter fun t => keep (store.tag t).device).map
        (fun t => (store.tag t).device) =
      (((store.column c name).filter fun entry => keep entry.1).filter
        fun entry => entry.2 = value).map Prod.fst := by
  rw [Store.column, List.filter_map, List.filter_map, List.map_map, Store.matching,
    List.filter_comm]
  rfl

theorem listing_congr (hone : one.Sound) (hrank : ∀ f, one.rank f = other.rank f)
    (hcolumn : one.column c name = other.column c name) (value : String) :
    listing one c name value = listing other c name value := by
  obtain ⟨owners, howners, -⟩ := exists_owners_of_matching hone c name value
  have hsame : distinctOwners one (one.matching c name value) =
      distinctOwners other (other.matching c name value) := by
    refine distinctOwners_of_map ?_
    have hmatching := map_matching one c name value fun _ => true
    rw [hcolumn, ← map_matching other c name value fun _ => true] at hmatching
    simpa using hmatching
  rw [listing_of_owners howners, listing_of_owners (hsame ▸ howners)]
  simp only [hrank]

/-- Without the entries of one device, the columns tell what is listed without that device. -/
theorem filter_listing_congr (hone : one.Sound) (hother : other.Sound)
    (hrank : ∀ f, one.rank f = other.rank f)
    (hcolumn : (one.column c name).filter (·.1 ≠ some d) =
      (other.column c name).filter (·.1 ≠ some d))
    (hlisted : listing one c name value = .ok listed)
    (hswapped : listing other c name value = .ok swapped) :
    listed.filter (· ≠ d) = swapped.filter (· ≠ d) := by
  have hsorted : ∀ {store : Store} {devices : List DeviceId}, store.Sound →
      listing store c name value = .ok devices → ∃ owners : List DeviceId,
        devices.filter (· ≠ d) = owners.mergeSort (fun f g => store.rank g ≤ store.rank f) ∧
        owners.map some = distinctOwners store ((store.matching c name value).filter fun t =>
          (store.tag t).device ≠ some d) := by
    intro store devices hsound hlisting
    obtain ⟨owners, howners, honce, -⟩ := exists_owners_of_matching hsound c name value
    cases (listing_of_owners howners).symm.trans hlisting
    refine ⟨owners.filter (· ≠ d), filter_mergeSort _ ?_ ?_ honce _, ?_⟩
    · simp only [decide_eq_true_eq]
      omega
    · simp only [Bool.or_eq_true, decide_eq_true_eq]
      omega
    · rw [distinctOwners_filter, howners, List.filter_map]
      exact congrArg _ (List.filter_congr fun f _ => by simp)
  obtain ⟨owners, hfirst, howners⟩ := hsorted hone hlisted
  obtain ⟨owners', hsecond, howners'⟩ := hsorted hother hswapped
  have hsame : owners = owners' := by
    refine List.map_injective_iff.mpr (Option.some_injective DeviceId) ?_
    rw [howners, howners']
    refine distinctOwners_of_map ?_
    have hmatching := map_matching one c name value fun owner => owner ≠ some d
    rw [hcolumn] at hmatching
    exact hmatching.trans (map_matching other c name value fun owner => owner ≠ some d).symm
  rw [hfirst, hsecond, hsame]
  simp only [hrank]

theorem sorted_listing (hsound : one.Sound) (hlisting : listing one c name value = .ok listed) :
    listed.Pairwise fun f g => one.rank g ≤ one.rank f := by
  obtain ⟨owners, howners, -⟩ := exists_owners_of_matching hsound c name value
  cases (listing_of_owners howners).symm.trans hlisting
  refine (List.pairwise_mergeSort ?_ ?_ owners).imp of_decide_eq_true
  · simp only [decide_eq_true_eq]
    omega
  · simp only [Bool.or_eq_true, decide_eq_true_eq]
    omega

end Lookup

end DeviceTags
