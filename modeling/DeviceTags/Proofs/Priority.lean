import DeviceTags.Priority
import Mathlib.Data.List.Induction
import Mathlib.Data.List.Nodup
import Mathlib.Tactic.Tauto

/-!
# The longest prefix decides

The priority of a device name goes by the keys that the last part of the name starts with: the longest
of them decides, and without one the priority is zero. The search keeps the best entry that it has met
so far. Two keys of one length that start the same text are the same key, so which entry is the best is
a matter of the keys alone, and neither the order of the table nor a key that does not start the text
has a part in it.
-/

namespace DeviceTags.Priority

/-! ## What a table gives a name -/

/-- The text behind the last slash, or all of a text without a slash. -/
structure IsLastPart (text part : List Char) : Prop where
  slashless : '/' ∉ part
  behind : text = part ∨ ∃ front, text = front ++ '/' :: part

/-- What a table gives a text: the value of the longest key that the text starts with, or zero if it
starts with none. -/
inductive Gives (table : Table) (text : List Char) : Priority → Prop where
  | longest {key : String} {priority : Priority} (hmem : (key, priority) ∈ table)
      (hstarts : key.toList <+: text)
      (hlongest : ∀ entry ∈ table, entry.1.toList <+: text → entry.1.length ≤ key.length) :
      Gives table text priority
  | unmatched (hnone : ∀ entry ∈ table, ¬ entry.1.toList <+: text) :
    Gives table text (.integer 0)

theorem intercalate_concat (separator : Char) (pieces : List (List Char)) (last : List Char)
    (hpieces : pieces ≠ []) :
    [separator].intercalate (pieces ++ [last]) =
      [separator].intercalate pieces ++ separator :: last := by
  induction pieces with
  | nil => exact absurd rfl hpieces
  | cons piece rest ih =>
    cases rest with
    | nil => simp
    | cons following rest =>
      rw [List.cons_append, List.intercalate_cons_of_ne_nil (by simp), ih (List.cons_ne_nil _ _),
        List.intercalate_cons_of_ne_nil (List.cons_ne_nil _ _)]
      simp only [List.append_assoc]

theorem isLastPart_lastPart (text : List Char) : IsLastPart text (lastPart text) := by
  obtain ⟨front, last, hpieces⟩ : ∃ front last, Path.pieces text = front ++ [last] :=
    ⟨_, _, (List.dropLast_append_getLast (Path.pieces_ne_nil text)).symm⟩
  have hlast : lastPart text = last := by rw [lastPart, hpieces, List.getLastD_concat]
  rw [hlast]
  refine ⟨@Path.slash_not_mem_pieces text _ (by rw [hpieces]; simp), ?_⟩
  rw [← Path.intercalate_pieces text, hpieces]
  cases front with
  | nil => exact .inl (by simp)
  | cons piece rest => exact .inr ⟨_, intercalate_concat _ _ _ (List.cons_ne_nil _ _)⟩

variable {table other : Table} {text : List Char} {priority : Priority}

/-! ## The search -/

/-- The best of the entries that were met: an entry with a key that none of them exceeds, if any entry
was met. -/
def IsBest (met : Table) : Option (String × Priority) → Prop
  | none => met = []
  | some best => best ∈ met ∧ ∀ entry ∈ met, entry.1.length ≤ best.1.length

theorem IsBest.longer {met : Table} {before : Option (String × Priority)}
    (hbest : IsBest met before) (entry : String × Priority) :
    IsBest (met ++ [entry]) (longer before entry) := by
  cases before with
  | none =>
    cases show met = [] from hbest
    simp [Priority.longer, IsBest]
  | some best =>
    obtain ⟨hmem, hlongest⟩ := hbest
    unfold Priority.longer
    dsimp only
    split
    · next hlonger =>
      refine ⟨List.mem_append_right _ List.mem_cons_self, fun found hfound => ?_⟩
      rcases List.mem_append.mp hfound with hold | hnew
      · exact Nat.le_trans (hlongest found hold) (Nat.le_of_lt hlonger)
      · exact Nat.le_of_eq (by rw [List.mem_singleton.mp hnew])
    · next hnotLonger =>
      refine ⟨List.mem_append_left _ hmem, fun found hfound => ?_⟩
      rcases List.mem_append.mp hfound with hold | hnew
      · exact hlongest found hold
      · rw [List.mem_singleton.mp hnew]
        exact Nat.le_of_not_lt hnotLonger

/-- The whole search ends with the best of all entries. -/
theorem isBest_foldl (entries : Table) : IsBest entries (entries.foldl longer none) := by
  induction entries using List.reverseRecOn with
  | nil => rfl
  | append_singleton met entry ih =>
    rw [List.foldl_append]
    exact ih.longer entry

theorem gives_ofName (table : Table) (name : String) :
    Gives table (lastPart name.toList) (ofName table name) := by
  have hbest := isBest_foldl
    (table.filter fun entry => entry.1.toList.isPrefixOf (lastPart name.toList))
  rw [ofName, bestEntry]
  cases hfound : (table.filter fun entry =>
      entry.1.toList.isPrefixOf (lastPart name.toList)).foldl longer none with
  | none =>
    rw [hfound] at hbest
    refine .unmatched fun entry hentry hstarts => ?_
    exact List.filter_eq_nil_iff.mp hbest entry hentry (List.isPrefixOf_iff_prefix.mpr hstarts)
  | some best =>
    rw [hfound] at hbest
    obtain ⟨hmem, hlongest⟩ := hbest
    obtain ⟨hlisted, hstarts⟩ := List.mem_filter.mp hmem
    refine .longest hlisted (List.isPrefixOf_iff_prefix.mp hstarts) fun entry hentry hmatch => ?_
    exact hlongest entry (List.mem_filter.mpr ⟨hentry, List.isPrefixOf_iff_prefix.mpr hmatch⟩)

/-! ## The keys decide -/

theorem eq_of_starts {left right : String} (hleft : left.toList <+: text)
    (hright : right.toList <+: text) (hlength : left.length = right.length) : left = right := by
  have hlengths : left.toList.length = right.toList.length := by
    rwa [String.length_toList, String.length_toList]
  have hstarts := List.prefix_of_prefix_length_le hleft hright (Nat.le_of_eq hlengths)
  exact String.toList_injective (hstarts.eq_of_length hlengths)

/-- A key has one value in a table, and among the keys that start a text, one is the longest. -/
theorem Gives.unique (hkeys : (table.map Prod.fst).Nodup) {found : Priority}
    (hgives : Gives table text priority) (hfound : Gives table text found) : found = priority := by
  cases hgives with
  | unmatched hnone =>
    cases hfound with
    | unmatched => rfl
    | longest hmem hstarts => exact absurd hstarts (hnone _ hmem)
  | @longest key _ hmem hstarts hlongest =>
    cases hfound with
    | unmatched hnone => exact absurd hstarts (hnone _ hmem)
    | @longest rival _ hrival hstartsRival hlongestRival =>
      have hsame : rival = key := eq_of_starts hstartsRival hstarts
        (Nat.le_antisymm (hlongest _ hrival hstartsRival) (hlongestRival _ hmem hstarts))
      subst hsame
      exact congrArg Prod.snd (List.inj_on_of_nodup_map hkeys hrival hmem rfl)

theorem ofName_eq_iff (hkeys : (table.map Prod.fst).Nodup) (name : String) :
    ofName table name = priority ↔ Gives table (lastPart name.toList) priority := by
  refine ⟨fun heq => heq ▸ gives_ofName table name, fun hgives => ?_⟩
  exact hgives.unique hkeys (gives_ofName table name)

/-- Only the entries with a key that starts the text have a part in what a table gives it. -/
theorem Gives.of_same (hgives : Gives table text priority)
    (hsame : ∀ entry : String × Priority, entry.1.toList <+: text → (entry ∈ other ↔ entry ∈ table)) :
    Gives other text priority := by
  cases hgives with
  | longest hmem hstarts hlongest =>
    exact .longest ((hsame (_, _) hstarts).mpr hmem) hstarts fun entry hentry hmatch =>
      hlongest entry ((hsame entry hmatch).mp hentry) hmatch
  | unmatched hnone =>
    exact .unmatched fun entry hentry hmatch =>
      hnone entry ((hsame entry hmatch).mp hentry) hmatch

theorem ofName_congr (hkeys : (table.map Prod.fst).Nodup) (name : String)
    (hsame : ∀ entry : String × Priority, entry.1.toList <+: lastPart name.toList →
      (entry ∈ other ↔ entry ∈ table)) :
    ofName other name = ofName table name := by
  have hgives := (gives_ofName other name).of_same fun entry hmatch => (hsame entry hmatch).symm
  exact ((ofName_eq_iff hkeys name).mpr hgives).symm

theorem length_pos_iff {key : String} : 0 < key.length ↔ key ≠ "" := by
  rw [Nat.pos_iff_ne_zero, ne_eq, String.length_eq_zero_iff]

/-- The empty key starts every text, so it loses to each other key that starts it. -/
theorem Gives.without_empty (hgives : Gives table text priority)
    (hother : ∃ entry ∈ table, entry.1 ≠ "" ∧ entry.1.toList <+: text) :
    Gives (table.filter (·.1 ≠ "")) text priority := by
  obtain ⟨better, hbetter, hnonempty, hmatch⟩ := hother
  cases hgives with
  | unmatched hnone => exact absurd hmatch (hnone better hbetter)
  | @longest key _ hmem hstarts hlongest =>
    have hpositive : 0 < better.1.length := length_pos_iff.mpr hnonempty
    have hkey : key ≠ "" := length_pos_iff.mp
      (Nat.lt_of_lt_of_le hpositive (hlongest better hbetter hmatch))
    refine .longest (List.mem_filter.mpr ⟨hmem, by simpa using hkey⟩) hstarts ?_
    exact fun entry hentry => hlongest entry (List.mem_of_mem_filter hentry)

theorem Gives.of_empty (hmem : ("", priority) ∈ table)
    (halone : ∀ entry ∈ table, entry.1.toList <+: text → entry.1 = "") :
    Gives table text priority := by
  refine .longest hmem (List.nil_prefix) fun entry hentry hmatch => ?_
  exact Nat.le_of_eq (by rw [halone entry hentry hmatch])

/-- The longest key that the last part of a name starts with decides, and zero is given if there is
none. Neither the order of the table nor a key that does not start the last part matters. The empty
key starts every text: it decides where no other key does, and else the table might as well not hold
it. -/
theorem longest_prefix_decides (table : Table) (hkeys : (table.map Prod.fst).Nodup) (name : String) :
    IsLastPart name.toList (lastPart name.toList) ∧
    (∀ priority, ofName table name = priority ↔ Gives table (lastPart name.toList) priority) ∧
    (∀ other : Table, other.Perm table → ofName other name = ofName table name) ∧
    (∀ other : Table,
        (∀ entry : String × Priority, entry.1.toList <+: lastPart name.toList →
          (entry ∈ other ↔ entry ∈ table)) →
        ofName other name = ofName table name) ∧
    (∀ priority, ("", priority) ∈ table →
        ((∀ entry ∈ table, entry.1.toList <+: lastPart name.toList → entry.1 = "") →
          ofName table name = priority) ∧
        ((∃ entry ∈ table, entry.1 ≠ "" ∧ entry.1.toList <+: lastPart name.toList) →
          ofName (table.filter (·.1 ≠ "")) name = ofName table name)) := by
  refine ⟨isLastPart_lastPart _, fun priority => ofName_eq_iff hkeys name, ?_, ?_, ?_⟩
  · intro other hperm
    exact ofName_congr hkeys name fun entry _ => hperm.mem_iff
  · intro other hsame
    exact ofName_congr hkeys name hsame
  · intro priority hempty
    refine ⟨fun halone => (ofName_eq_iff hkeys name).mpr (.of_empty hempty halone), fun hother => ?_⟩
    have hfiltered : ((table.filter (·.1 ≠ "")).map Prod.fst).Nodup :=
      hkeys.sublist (List.filter_sublist.map _)
    exact (ofName_eq_iff hfiltered name).mpr ((gives_ofName table name).without_empty hother)

/-- A table with the empty key, and with two keys of which one starts the other. -/
def sampleTable : Table :=
  [("", .integer 1), ("sd", .integer 2), ("dm-", .integer 4), ("sda", .boolean true)]

theorem longest_prefix_decides_sample :
    (sampleTable.map Prod.fst).Nodup ∧
    IsLastPart "/dev/block/sda1".toList "sda1".toList ∧
    ofName sampleTable "/dev/block/sda1" = .boolean true ∧
    ofName sampleTable.reverse "/dev/block/sda1" = .boolean true ∧
    ofName (sampleTable.filter (·.1 ≠ "")) "/dev/block/sda1" = .boolean true ∧
    ofName [("sd", .integer 2), ("sda", .boolean true), ("", .integer 1)] "/dev/block/sda1" =
      .boolean true ∧
    ofName sampleTable "/dev/block/" = .integer 1 := by
  have hkeys : (sampleTable.map Prod.fst).Nodup := by decide
  have hlast : lastPart "/dev/block/sda1".toList = "sda1".toList := by decide
  obtain ⟨hpart, hgives, hperm, hsame, hempty⟩ :=
    longest_prefix_decides sampleTable hkeys "/dev/block/sda1"
  rw [hlast] at hpart hgives hsame hempty
  have hvalue : ofName sampleTable "/dev/block/sda1" = .boolean true :=
    (hgives _).mpr (@Gives.longest _ _ "sda" _ (by decide) (by decide) (by decide))
  refine ⟨hkeys, hpart, hvalue, ?_, ?_, ?_, ?_⟩
  · exact (hperm _ (List.reverse_perm _)).trans hvalue
  · exact ((hempty (.integer 1) (by decide)).2 ⟨("sd", .integer 2), by decide⟩).trans hvalue
  · refine (hsame _ fun entry hentry => ?_).trans hvalue
    simp only [sampleTable, List.mem_cons, List.not_mem_nil, or_false]
    refine ⟨by tauto, ?_⟩
    rintro (rfl | rfl | rfl | rfl)
    · simp
    · simp
    · exact absurd hentry (by decide)
    · simp
  · obtain ⟨-, -, -, -, hempty⟩ := longest_prefix_decides sampleTable hkeys "/dev/block/"
    exact (hempty (.integer 1) (by decide)).1 (by decide)

end DeviceTags.Priority
