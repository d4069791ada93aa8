import DeviceTags.Proofs.Merging
import DeviceTags.Toml.Reader

/-!
# Keys of documents

In every table of a document that was read, at any depth, each key stands once. A table under
construction keeps this property, whether it was begun by a header, by dotted keys or by an opening
brace, since all of them put what they bring in the place of what was under its key.
-/

namespace DeviceTags

/-- Two steps go through where each of them does. -/
theorem Except.bind_eq_ok_iff {ε α β : Type} {first : Except ε α} {next : α → Except ε β}
    {result : β} :
    first >>= next = .ok result ↔ ∃ value, first = .ok value ∧ next value = .ok result := by
  constructor
  · intro hok
    cases first with
    | error failure => cases hok
    | ok value => exact ⟨value, rfl, hok⟩
  · rintro ⟨value, rfl, hnext⟩
    exact hnext

/-- Values that hold no other ones. -/
def Datum.IsSingle : Datum → Prop
  | .array _ | .table _ => False
  | _ => True

/-- Every table in the value, and the value itself, has each key once. -/
inductive Datum.KeysOnce : Datum → Prop
  | table {entries : List (String × Datum)} (once : (entries.map Prod.fst).Nodup)
      (values : ∀ entry ∈ entries, entry.2.KeysOnce) : KeysOnce (.table entries)
  | array {list : List Datum} (items : ∀ item ∈ list, item.KeysOnce) : KeysOnce (.array list)
  | single {datum : Datum} (hsingle : datum.IsSingle) : KeysOnce datum

namespace Datum.KeysOnce

variable {entries : List (String × Datum)} {list : List Datum} {key : String} {datum : Datum}

theorem once (hkeys : KeysOnce (.table entries)) : (entries.map Prod.fst).Nodup := by
  cases hkeys with
  | table once values => exact once
  | single hsingle => exact hsingle.elim

theorem values (hkeys : KeysOnce (.table entries)) : ∀ entry ∈ entries, entry.2.KeysOnce := by
  cases hkeys with
  | table once values => exact values
  | single hsingle => exact hsingle.elim

theorem items (hkeys : KeysOnce (.array list)) : ∀ item ∈ list, item.KeysOnce := by
  cases hkeys with
  | array items => exact items
  | single hsingle => exact hsingle.elim

theorem lookup (hkeys : KeysOnce (.table entries)) (hfound : entries.lookup key = some datum) :
    datum.KeysOnce :=
  hkeys.values _ ((lookup_eq_some_iff_mem hkeys.once).mp hfound)

theorem mergeEntry (hkeys : KeysOnce (.table entries)) (hdatum : datum.KeysOnce) :
    KeysOnce (.table (mergeEntry key datum entries)) := by
  have honce := nodup_mergeEntry key datum hkeys.once
  refine .table honce fun entry hentry => ?_
  obtain ⟨name, value⟩ := entry
  rw [← lookup_eq_some_iff_mem honce, lookup_mergeEntry] at hentry
  split at hentry
  · cases hentry
    exact hdatum
  · exact hkeys.lookup hentry

end Datum.KeysOnce

namespace Toml

/-! ## Tables under construction -/

theorem finishEntries_mergeEntry (key : String) (node : Node) (draft : Draft) :
    finishEntries (mergeEntry key node draft) = mergeEntry key node.finish (finishEntries draft) := by
  induction draft with
  | nil => rfl
  | cons entry rest ih =>
    obtain ⟨name, old⟩ := entry
    by_cases hname : name = key
    · rw [mergeEntry, if_pos hname, finishEntries, finishEntries, mergeEntry, if_pos hname]
    · rw [mergeEntry, if_neg hname, finishEntries, finishEntries, mergeEntry, if_neg hname, ih]

theorem lookup_finishEntries (key : String) (draft : Draft) :
    (finishEntries draft).lookup key = (draft.lookup key).map Node.finish := by
  induction draft with
  | nil => rfl
  | cons entry rest ih =>
    obtain ⟨name, node⟩ := entry
    rw [finishEntries, List.lookup_cons, List.lookup_cons, ih]
    cases key == name <;> rfl

theorem finishTables_eq (drafts : List Draft) :
    finishTables drafts = drafts.map fun draft => .table (finishEntries draft) := by
  induction drafts with
  | nil => rfl
  | cons draft drafts ih => rw [finishTables, ih, List.map_cons]

namespace Draft

/-- Every key stands once in the table that the draft will be. -/
def KeysOnce (draft : Draft) : Prop := (Datum.table (finishEntries draft)).KeysOnce

variable {draft entries final changed : Draft} {earlier : List Draft} {key : String}
  {origin : Origin} {node : Node} {path : List String}

theorem keysOnce_nil : KeysOnce [] :=
  .table List.nodup_nil fun _ hentry => absurd hentry List.not_mem_nil

theorem KeysOnce.put (hdraft : draft.KeysOnce) (hnode : node.finish.KeysOnce) :
    (draft.put key node).KeysOnce := by
  rw [KeysOnce, Draft.put, finishEntries_mergeEntry]
  exact Datum.KeysOnce.mergeEntry hdraft hnode

theorem KeysOnce.found (hdraft : draft.KeysOnce) (hfound : draft.lookup key = some node) :
    node.finish.KeysOnce := by
  have hfinished : (finishEntries draft).lookup key = some node.finish := by
    rw [lookup_finishEntries, hfound, Option.map_some]
  exact Datum.KeysOnce.lookup hdraft hfinished

theorem KeysOnce.table (hdraft : draft.KeysOnce)
    (hfound : draft.lookup key = some (.table origin entries)) : entries.KeysOnce := by
  have hnode := hdraft.found hfound
  rw [Node.finish] at hnode
  exact hnode

theorem KeysOnce.put_table (hdraft : draft.KeysOnce) (hchanged : changed.KeysOnce) :
    (draft.put key (.table origin changed)).KeysOnce := by
  refine hdraft.put ?_
  rw [Node.finish]
  exact hchanged

theorem KeysOnce.put_tables (hdraft : draft.KeysOnce)
    (hearlier : ∀ item ∈ finishTables earlier, item.KeysOnce) (hfinal : final.KeysOnce) :
    (draft.put key (.tables earlier final)).KeysOnce := by
  refine hdraft.put ?_
  rw [Node.finish]
  refine .array fun item hitem => ?_
  rcases List.mem_append.mp hitem with hmem | hlast
  · exact hearlier item hmem
  · rw [List.mem_singleton.mp hlast]
    exact hfinal

/-- The elements of a list, with the last one among them. -/
theorem KeysOnce.elements (hdraft : draft.KeysOnce)
    (hfound : draft.lookup key = some (.tables earlier final)) :
    (∀ item ∈ finishTables earlier, item.KeysOnce) ∧ final.KeysOnce := by
  have hnode := hdraft.found hfound
  rw [Node.finish] at hnode
  exact ⟨fun item hitem => hnode.items item (List.mem_append_left _ hitem),
    hnode.items _ (by simp)⟩

/-- A table in the table is changed. -/
theorem KeysOnce.through_table {scan : Scan Draft} (hdraft : draft.KeysOnce)
    (hscan : ∀ {below}, scan = .ok below → below.KeysOnce)
    (hput : (scan >>= fun below => .ok (draft.put key (.table origin below))) = .ok changed) :
    changed.KeysOnce := by
  obtain ⟨below, hbelow, hput⟩ := Except.bind_eq_ok_iff.mp hput
  cases hput
  exact hdraft.put_table (hscan hbelow)

/-- The last table of a list in the table is changed. -/
theorem KeysOnce.through_last {scan : Scan Draft} (hdraft : draft.KeysOnce)
    (hfound : draft.lookup key = some (.tables earlier final))
    (hscan : ∀ {below}, scan = .ok below → below.KeysOnce)
    (hput : (scan >>= fun below => .ok (draft.put key (.tables earlier below))) = .ok changed) :
    changed.KeysOnce := by
  obtain ⟨below, hbelow, hput⟩ := Except.bind_eq_ok_iff.mp hput
  cases hput
  exact hdraft.put_tables (hdraft.elements hfound).1 (hscan hbelow)

theorem KeysOnce.declare (hdraft : draft.KeysOnce) (hdeclare : draft.declare path = .ok changed) :
    changed.KeysOnce := by
  fun_induction Draft.declare draft path generalizing changed
  case case2 =>
    cases hdeclare
    exact hdraft.put_table keysOnce_nil
  case case3 hfound =>
    cases hdeclare
    exact hdraft.put_table (hdraft.table hfound)
  case case5 ih => exact hdraft.through_table (ih keysOnce_nil) hdeclare
  case case6 hfound ih => exact hdraft.through_table (ih (hdraft.table hfound)) hdeclare
  case case7 hfound ih =>
    exact hdraft.through_last hfound (ih (hdraft.elements hfound).2) hdeclare
  all_goals cases hdeclare

theorem KeysOnce.declareElement (hdraft : draft.KeysOnce)
    (hdeclare : draft.declareElement path = .ok changed) : changed.KeysOnce := by
  fun_induction Draft.declareElement draft path generalizing changed
  case case2 =>
    cases hdeclare
    exact hdraft.put_tables (fun _ hitem => absurd hitem List.not_mem_nil) keysOnce_nil
  case case3 hfound =>
    cases hdeclare
    obtain ⟨hearlier, hlast⟩ := hdraft.elements hfound
    refine hdraft.put_tables (fun item hitem => ?_) keysOnce_nil
    rw [finishTables_eq, List.map_append, List.mem_append, ← finishTables_eq] at hitem
    rcases hitem with hmem | hmem
    · exact hearlier item hmem
    · rw [List.map_singleton, List.mem_singleton] at hmem
      rw [hmem]
      exact hlast
  case case5 ih => exact hdraft.through_table (ih keysOnce_nil) hdeclare
  case case6 hfound ih => exact hdraft.through_table (ih (hdraft.table hfound)) hdeclare
  case case7 hfound ih =>
    exact hdraft.through_last hfound (ih (hdraft.elements hfound).2) hdeclare
  all_goals cases hdeclare

theorem KeysOnce.assign {sectionNumber : Nat} {datum : Datum} (hdraft : draft.KeysOnce)
    (hdatum : datum.KeysOnce) (hassign : draft.assign sectionNumber datum path = .ok changed) :
    changed.KeysOnce := by
  fun_induction Draft.assign draft sectionNumber datum path generalizing changed
  case case2 =>
    cases hassign
    refine hdraft.put ?_
    rw [Node.finish]
    exact hdatum
  case case4 ih => exact hdraft.through_table (ih keysOnce_nil) hassign
  case case6 hfound ih => exact hdraft.through_table (ih (hdraft.table hfound)) hassign
  case case8 hfound ih => exact hdraft.through_table (ih (hdraft.table hfound)) hassign
  all_goals cases hassign

theorem KeysOnce.within {change : Draft → Scan Draft} (hdraft : draft.KeysOnce)
    (hchange : ∀ {before after}, before.KeysOnce → change before = .ok after → after.KeysOnce)
    (hwithin : draft.within change path = .ok changed) : changed.KeysOnce := by
  fun_induction Draft.within draft change path generalizing changed
  case case1 => exact hchange hdraft hwithin
  case case2 hfound ih => exact hdraft.through_table (ih (hdraft.table hfound)) hwithin
  case case3 hfound ih =>
    exact hdraft.through_last hfound (ih (hdraft.elements hfound).2) hwithin
  case case4 => cases hwithin

end Draft

/-! ## Values -/

section

variable {text rest : List Char} {datum : Datum}

theorem moment?_single (hread : moment? text = some (.ok (datum, rest))) : datum.IsSingle := by
  unfold moment? at hread
  obtain ⟨⟨date, after⟩, -, hread⟩ := Option.bind_eq_some_iff.mp hread
  have hchecked := Option.some.inj hread
  split at hchecked
  · have hfound := Except.ok.inj hchecked
    split at hfound
    · split at hfound
      · split at hfound <;> (cases hfound; trivial)
      · cases hfound
        trivial
    · cases hfound
      trivial
  · cases hchecked

theorem decimal?_single (hread : decimal? text = some (.ok (datum, rest))) : datum.IsSingle := by
  unfold decimal? at hread
  obtain ⟨whole, -, hread⟩ := Option.bind_eq_some_iff.mp hread
  have hnumber := Option.some.inj hread
  split at hnumber
  · split at hnumber
    · cases hnumber
    · cases hnumber
      trivial
  · cases hnumber
    trivial

theorem based?_single (hread : based? text = some (datum, rest)) : datum.IsSingle := by
  unfold based? at hread
  split at hread
  · next after =>
    have hrun : ∀ base, (run? base after >>= fun found =>
        some (Datum.integer (Text.ofDigits base found.1 : Nat), found.2)) = some (datum, rest) →
          datum.IsSingle := by
      intro base hrun
      obtain ⟨found, -, hfound⟩ := Option.bind_eq_some_iff.mp hrun
      cases hfound
      trivial
    split at hread
    · exact hrun _ hread
    · split at hread
      · exact hrun _ hread
      · split at hread
        · exact hrun _ hread
        · cases hread
  · cases hread

theorem word?_single (hread : word? text = some (datum, rest)) : datum.IsSingle := by
  have hwords : ∀ entry ∈ words, entry.2.IsSingle := by
    simp [words, Datum.IsSingle]
  obtain ⟨entry, hmem, hfound⟩ := List.exists_of_findSome?_eq_some hread
  split at hfound
  · cases hfound
    exact hwords entry hmem
  · cases hfound

/-- A scalar is neither a table nor a list. -/
theorem scalar_single (hread : scalar text = .ok (datum, rest)) : datum.IsSingle := by
  unfold scalar at hread
  split at hread
  · next hmoment =>
    rw [hread] at hmoment
    exact moment?_single hmoment
  · split at hread
    · cases hread
      trivial
    · split at hread
      · next hbased =>
        cases hread
        exact based?_single hbased
      · split at hread
        · next hdecimal =>
          rw [hread] at hdecimal
          exact decimal?_single hdecimal
        · split at hread
          · next hword =>
            cases hread
            exact word?_single hword
          · cases hread

end

/-- What the parts of the reader that call each other give, with one bound for all. -/
structure GivesKeysOnce (bound : Nat) : Prop where
  value : ∀ {room text datum rest}, Toml.value bound room text = .ok (datum, rest) → datum.KeysOnce
  items : ∀ {room text list rest}, Toml.items bound room text = .ok (list, rest) →
    ∀ item ∈ list, item.KeysOnce
  members : ∀ {room draft text changed rest}, Draft.KeysOnce draft →
    Toml.members bound room draft text = .ok (changed, rest) → changed.KeysOnce

namespace GivesKeysOnce

variable {bound room : Nat} (hgives : GivesKeysOnce bound) {text rest : List Char}

include hgives

theorem value_succ {datum : Datum} (hread : Toml.value (bound + 1) room text = .ok (datum, rest)) :
    datum.KeysOnce := by
  unfold Toml.value at hread
  split at hread
  · next scan _ =>
    cases scan with
    | error fault => cases hread
    | ok found =>
      cases hread
      exact .single trivial
  · split at hread
    · obtain ⟨_, -, hread⟩ := Except.bind_eq_ok_iff.mp hread
      obtain ⟨_, -, hread⟩ := Except.bind_eq_ok_iff.mp hread
      obtain ⟨⟨found, after⟩, hfound, hread⟩ := Except.bind_eq_ok_iff.mp hread
      cases hread
      exact .array (hgives.items hfound)
    · obtain ⟨_, -, hread⟩ := Except.bind_eq_ok_iff.mp hread
      split at hread
      · cases hread
        exact Draft.keysOnce_nil
      · obtain ⟨⟨draft, after⟩, hfound, hread⟩ := Except.bind_eq_ok_iff.mp hread
        cases hread
        exact hgives.members Draft.keysOnce_nil hfound
    · exact .single (scalar_single hread)

theorem items_succ {list : List Datum}
    (hread : Toml.items (bound + 1) room text = .ok (list, rest)) : ∀ item ∈ list, item.KeysOnce := by
  unfold Toml.items at hread
  split at hread
  · cases hread
  · cases hread
    simp
  · next hbound _ =>
    cases hbound
    obtain ⟨⟨first, after⟩, hfirst, hread⟩ := Except.bind_eq_ok_iff.mp hread
    obtain ⟨_, -, hread⟩ := Except.bind_eq_ok_iff.mp hread
    split at hread
    · cases hread
      intro item hitem
      rw [List.mem_singleton.mp hitem]
      exact hgives.value hfirst
    · obtain ⟨_, -, hread⟩ := Except.bind_eq_ok_iff.mp hread
      obtain ⟨⟨more, after⟩, hmore, hread⟩ := Except.bind_eq_ok_iff.mp hread
      cases hread
      intro item hitem
      rcases List.mem_cons.mp hitem with rfl | hmem
      · exact hgives.value hfirst
      · exact hgives.items hmore item hmem
    · cases hread

theorem members_succ {draft changed : Draft} (hdraft : draft.KeysOnce)
    (hread : Toml.members (bound + 1) room draft text = .ok (changed, rest)) : changed.KeysOnce := by
  unfold Toml.members at hread
  obtain ⟨⟨path, after⟩, -, hread⟩ := Except.bind_eq_ok_iff.mp hread
  dsimp only at hread
  split at hread
  · obtain ⟨⟨datum, after⟩, hvalue, hread⟩ := Except.bind_eq_ok_iff.mp hread
    obtain ⟨grown, hassign, hread⟩ := Except.bind_eq_ok_iff.mp hread
    have hgrown := hdraft.assign (hgives.value hvalue) hassign
    split at hread
    · cases hread
      exact hgrown
    · exact hgives.members hgrown hread
    · cases hread
  · cases hread

end GivesKeysOnce

theorem givesKeysOnce (bound : Nat) : GivesKeysOnce bound := by
  induction bound with
  | zero =>
    constructor
    case value =>
      intro room text datum rest hread
      cases hread
    case items =>
      intro room text list rest hread
      cases hread
    case members =>
      intro room draft text changed rest _ hread
      cases hread
  | succ bound ih => exact ⟨ih.value_succ, ih.items_succ, ih.members_succ⟩

/-! ## Documents -/

theorem statement_keysOnce {before after : Progress} {text rest : List Char}
    (hbefore : before.draft.KeysOnce) (hread : statement before text = .ok (after, rest)) :
    after.draft.KeysOnce := by
  unfold statement at hread
  split at hread
  · obtain ⟨⟨path, _⟩, -, hread⟩ := Except.bind_eq_ok_iff.mp hread
    obtain ⟨draft, hdeclare, hread⟩ := Except.bind_eq_ok_iff.mp hread
    split at hread
    · cases hread
      exact hbefore.declareElement hdeclare
    · cases hread
  · obtain ⟨⟨path, _⟩, -, hread⟩ := Except.bind_eq_ok_iff.mp hread
    obtain ⟨draft, hdeclare, hread⟩ := Except.bind_eq_ok_iff.mp hread
    split at hread
    · cases hread
      exact hbefore.declare hdeclare
    · cases hread
  · cases hread
    exact hbefore
  · obtain ⟨⟨path, _⟩, -, hread⟩ := Except.bind_eq_ok_iff.mp hread
    dsimp only at hread
    split at hread
    · obtain ⟨⟨datum, _⟩, hvalue, hread⟩ := Except.bind_eq_ok_iff.mp hread
      obtain ⟨draft, hwithin, hread⟩ := Except.bind_eq_ok_iff.mp hread
      cases hread
      exact hbefore.within
        (fun htable hassign => htable.assign ((givesKeysOnce _).value hvalue) hassign) hwithin
    · cases hread

theorem statements_keysOnce {bound : Nat} {before : Progress} {text : List Char} {draft : Draft}
    (hbefore : before.draft.KeysOnce) (hread : statements bound before text = .ok draft) :
    draft.KeysOnce := by
  induction bound generalizing before text with
  | zero => cases hread
  | succ bound ih =>
    unfold statements at hread
    split at hread
    · cases hread
      exact hbefore
    · exact ih hbefore hread
    · obtain ⟨⟨after, _⟩, hstatement, hread⟩ := Except.bind_eq_ok_iff.mp hread
      have hafter := statement_keysOnce hbefore hstatement
      obtain ⟨_, -, hread⟩ := Except.bind_eq_ok_iff.mp hread
      split at hread
      · cases hread
        exact hafter
      · exact ih hafter hread
      · cases hread

/-- In every table of a document that is read, each key stands once. -/
theorem keysOnce_of_read {text : String} {document : List (String × Datum)}
    (hread : Toml.read text = .ok document) : (Datum.table document).KeysOnce := by
  obtain ⟨draft, hstatements, hread⟩ := Except.bind_eq_ok_iff.mp hread
  cases hread
  exact statements_keysOnce Draft.keysOnce_nil hstatements

end Toml

end DeviceTags
