/-!
# Ordered tables

Tables as lists of keys and values in which every key stands once, at the place where it was put
first, with the value that was put last.
-/

namespace DeviceTags

variable {κ α : Type} [DecidableEq κ]

def mergeEntry (key : κ) (value : α) : List (κ × α) → List (κ × α)
  | [] => [(key, value)]
  | (k, v) :: rest => if k = key then (k, value) :: rest else (k, v) :: mergeEntry key value rest

def mergeEntries (pairs : List (κ × α)) : List (κ × α) :=
  pairs.foldl (fun table pair => mergeEntry pair.1 pair.2 table) []

theorem lookup_mergeEntry [BEq κ] [LawfulBEq κ] (key other : κ) (value : α)
    (table : List (κ × α)) :
    (mergeEntry key value table).lookup other =
      if other = key then some value else table.lookup other := by
  induction table with
  | nil =>
    by_cases hkey : other = key
    · simp [mergeEntry, hkey]
    · simp [mergeEntry, hkey, List.lookup_cons, beq_false_of_ne hkey]
  | cons head rest ih =>
    obtain ⟨k, v⟩ := head
    by_cases hk : k = key
    · subst hk
      by_cases hother : other = k
      · simp [mergeEntry, hother]
      · simp [mergeEntry, List.lookup_cons, hother, beq_false_of_ne hother]
    · by_cases hother : other = k
      · subst hother
        simp [mergeEntry, hk]
      · simp [mergeEntry, List.lookup_cons, hk, beq_false_of_ne hother, ih]

/-- A key that is there already keeps its place, and a new one comes last. -/
theorem map_fst_mergeEntry (key : κ) (value : α) (table : List (κ × α)) :
    (mergeEntry key value table).map Prod.fst =
      if key ∈ table.map Prod.fst then table.map Prod.fst else table.map Prod.fst ++ [key] := by
  induction table with
  | nil => simp [mergeEntry]
  | cons head rest ih =>
    obtain ⟨k, v⟩ := head
    by_cases hk : k = key
    · subst hk
      simp [mergeEntry]
    · have hne : key ≠ k := fun heq => hk heq.symm
      rw [mergeEntry, if_neg hk, List.map_cons, ih]
      by_cases hmem : key ∈ rest.map Prod.fst
      · simp [hmem]
      · simp [hmem, hne]

theorem nodup_mergeEntry (key : κ) (value : α) {table : List (κ × α)}
    (hnodup : (table.map Prod.fst).Nodup) :
    ((mergeEntry key value table).map Prod.fst).Nodup := by
  rw [map_fst_mergeEntry]
  split
  · exact hnodup
  · next hnew =>
    rw [List.nodup_append]
    refine ⟨hnodup, by simp, ?_⟩
    intro other hother last hlast
    rw [List.mem_singleton] at hlast
    rintro rfl
    exact hnew (hlast ▸ hother)

theorem nodup_mergeEntries (pairs : List (κ × α)) :
    ((mergeEntries pairs).map Prod.fst).Nodup := by
  have hfold : ∀ table : List (κ × α), (table.map Prod.fst).Nodup →
      ((pairs.foldl (fun table pair => mergeEntry pair.1 pair.2 table) table).map
        Prod.fst).Nodup := by
    induction pairs with
    | nil => exact fun _ hnodup => hnodup
    | cons pair rest ih =>
      exact fun table hnodup => ih _ (nodup_mergeEntry pair.1 pair.2 hnodup)
  exact hfold [] (by simp)

end DeviceTags
