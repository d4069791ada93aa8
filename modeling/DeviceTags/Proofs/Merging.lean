import DeviceTags.Entries
import Mathlib.Data.List.Dedup
import Mathlib.Data.List.Induction

/-!
# Merged entries

What a table holds that was merged from a list of entries: under every key the value that came last,
and the keys in the order in which they came first.
-/

namespace DeviceTags

variable {κ α : Type} [DecidableEq κ]

/-! ## One more entry -/

theorem mergeEntry_of_not_mem {key : κ} {table : List (κ × α)}
    (hnew : key ∉ table.map Prod.fst) (value : α) :
    mergeEntry key value table = table ++ [(key, value)] := by
  induction table with
  | nil => rfl
  | cons entry rest ih =>
    rw [List.map_cons, List.mem_cons, not_or] at hnew
    rw [mergeEntry, if_neg (Ne.symm hnew.1), ih hnew.2]
    rfl

/-- The first entry of a key gets the value. -/
theorem mergeEntry_append_cons {key : κ} {front : List (κ × α)}
    (hnew : key ∉ front.map Prod.fst) (old new : α) (back : List (κ × α)) :
    mergeEntry key new (front ++ (key, old) :: back) = front ++ (key, new) :: back := by
  induction front with
  | nil => exact if_pos rfl
  | cons entry rest ih =>
    rw [List.map_cons, List.mem_cons, not_or] at hnew
    rw [List.cons_append, mergeEntry, if_neg (Ne.symm hnew.1), ih hnew.2]
    rfl

theorem mergeEntry_last {key : κ} {front : List (κ × α)} (hnew : key ∉ front.map Prod.fst)
    (old new : α) : mergeEntry key new (front ++ [(key, old)]) = front ++ [(key, new)] :=
  mergeEntry_append_cons hnew old new []

/-- An entry whose key is there already takes the place of the old one. -/
theorem mergeEntry_of_mem {key : κ} {table : List (κ × α)} (honce : (table.map Prod.fst).Nodup)
    (hmem : key ∈ table.map Prod.fst) (value : α) :
    mergeEntry key value table =
      table.map fun entry => if entry.1 = key then (key, value) else entry := by
  induction table with
  | nil => cases hmem
  | cons entry rest ih =>
    obtain ⟨k, v⟩ := entry
    rw [List.map_cons, List.nodup_cons] at honce
    by_cases hk : k = key
    · subst hk
      have hrest : rest.map (fun entry => if entry.1 = k then (k, value) else entry) = rest := by
        refine (List.map_congr_left fun entry hentry => if_neg ?_).trans (List.map_id rest)
        rintro rfl
        exact honce.1 (List.mem_map.mpr ⟨entry, hentry, rfl⟩)
      rw [mergeEntry, if_pos rfl, List.map_cons, if_pos rfl, hrest]
    · have hrest : key ∈ rest.map Prod.fst := by
        rw [List.map_cons, List.mem_cons] at hmem
        exact hmem.resolve_left (Ne.symm hk)
      rw [mergeEntry, if_neg hk, List.map_cons, if_neg hk, ih honce.2 hrest]

/-! ## All entries of a list -/

theorem mergeEntries_append (pairs more : List (κ × α)) :
    mergeEntries (pairs ++ more) =
      more.foldl (fun table pair => mergeEntry pair.1 pair.2 table) (mergeEntries pairs) :=
  List.foldl_append

theorem mergeEntries_concat (pairs : List (κ × α)) (key : κ) (value : α) :
    mergeEntries (pairs ++ [(key, value)]) = mergeEntry key value (mergeEntries pairs) :=
  mergeEntries_append pairs [(key, value)]

theorem mem_keys_mergeEntries {key : κ} (pairs : List (κ × α)) :
    key ∈ (mergeEntries pairs).map Prod.fst ↔ key ∈ pairs.map Prod.fst := by
  induction pairs using List.reverseRecOn with
  | nil => rfl
  | append_singleton pairs pair ih =>
    obtain ⟨k, v⟩ := pair
    rw [mergeEntries_concat, map_fst_mergeEntry, List.map_append, List.mem_append, ← ih]
    by_cases hk : k ∈ (mergeEntries pairs).map Prod.fst
    · rw [if_pos hk, List.map_singleton, List.mem_singleton]
      constructor
      · exact .inl
      · rintro (hold | rfl)
        · exact hold
        · exact hk
    · rw [if_neg hk, List.mem_append]
      rfl

/-- The keys stand in the order in which they came first. -/
theorem map_fst_mergeEntries [BEq κ] [LawfulBEq κ] (pairs : List (κ × α)) :
    (mergeEntries pairs).map Prod.fst = (pairs.map Prod.fst).eraseDups := by
  induction pairs using List.reverseRecOn with
  | nil => rfl
  | append_singleton pairs pair ih =>
    obtain ⟨k, v⟩ := pair
    rw [mergeEntries_concat, map_fst_mergeEntry, List.map_append, List.eraseDups_append, ih,
      List.map_singleton]
    by_cases hk : k ∈ pairs.map Prod.fst
    · rw [if_pos (List.mem_eraseDups.mpr hk)]
      simp [List.removeAll, hk]
    · rw [if_neg (hk ∘ List.mem_eraseDups.mp)]
      simp [List.removeAll, hk, List.eraseDups_cons]

/-- The table has one entry for each key. -/
theorem length_mergeEntries (pairs : List (κ × α)) :
    (mergeEntries pairs).length = (pairs.map Prod.fst).dedup.length := by
  have hperm : ((mergeEntries pairs).map Prod.fst).Perm (pairs.map Prod.fst).dedup := by
    rw [List.perm_ext_iff_of_nodup (nodup_mergeEntries pairs) (List.nodup_dedup _)]
    intro key
    rw [mem_keys_mergeEntries, List.mem_dedup]
  rw [← hperm.length_eq, List.length_map]

/-- Under a key stands the value that came last. -/
theorem lookup_mergeEntries [BEq κ] [LawfulBEq κ] (pairs : List (κ × α)) (key : κ) :
    (mergeEntries pairs).lookup key =
      ((pairs.filter fun pair => pair.1 = key).map Prod.snd).getLast? := by
  induction pairs using List.reverseRecOn with
  | nil => rfl
  | append_singleton pairs pair ih =>
    obtain ⟨k, v⟩ := pair
    rw [mergeEntries_concat, lookup_mergeEntry, ih, List.filter_append, List.map_append]
    by_cases hk : key = k
    · subst hk
      simp
    · simp [hk, Ne.symm hk]

theorem exists_lookup_mergeEntries [BEq κ] [LawfulBEq κ] {pairs : List (κ × α)} {key : κ}
    {value : α} (hmem : (key, value) ∈ pairs) :
    ∃ last, (mergeEntries pairs).lookup key = some last ∧ (key, last) ∈ pairs := by
  have hthere : value ∈ (pairs.filter fun pair => pair.1 = key).map Prod.snd :=
    List.mem_map.mpr ⟨(key, value), List.mem_filter.mpr ⟨hmem, decide_eq_true rfl⟩, rfl⟩
  rw [lookup_mergeEntries]
  cases hlast : ((pairs.filter fun pair => pair.1 = key).map Prod.snd).getLast? with
  | none =>
    rw [List.getLast?_eq_none_iff.mp hlast] at hthere
    cases hthere
  | some last =>
    obtain ⟨⟨k, v⟩, hfiltered, rfl⟩ := List.mem_map.mp (List.mem_of_getLast? hlast)
    obtain ⟨hpair, hkey⟩ := List.mem_filter.mp hfiltered
    obtain rfl : k = key := of_decide_eq_true hkey
    exact ⟨v, rfl, hpair⟩

/-! ## Tables without repetitions -/

omit [DecidableEq κ] in
/-- Where every key stands once, an entry is what is found under its key. -/
theorem lookup_eq_some_iff_mem [BEq κ] [LawfulBEq κ] {table : List (κ × α)}
    (honce : (table.map Prod.fst).Nodup) {key : κ} {value : α} :
    table.lookup key = some value ↔ (key, value) ∈ table := by
  rw [List.lookup_eq_some_iff]
  constructor
  · rintro ⟨front, back, rfl, -⟩
    exact List.mem_append_right _ List.mem_cons_self
  · intro hmem
    obtain ⟨front, back, rfl⟩ := List.append_of_mem hmem
    refine ⟨front, back, rfl, fun entry hentry => ?_⟩
    rw [List.map_append, List.nodup_append] at honce
    have hne := honce.2.2 entry.1 (List.mem_map_of_mem hentry) key (by simp)
    simpa using Ne.symm hne

omit [DecidableEq κ] in
/-- The order of the entries does not matter for what is found. -/
theorem lookup_perm [BEq κ] [LawfulBEq κ] {table other : List (κ × α)} (hperm : table.Perm other)
    (honce : (other.map Prod.fst).Nodup) (key : κ) : table.lookup key = other.lookup key := by
  have honce' : (table.map Prod.fst).Nodup := (hperm.map Prod.fst).nodup_iff.mpr honce
  apply Option.ext
  intro value
  rw [lookup_eq_some_iff_mem honce', lookup_eq_some_iff_mem honce, hperm.mem_iff]

end DeviceTags
