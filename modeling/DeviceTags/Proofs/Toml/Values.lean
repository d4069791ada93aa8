import DeviceTags.Proofs.Merging
import DeviceTags.Proofs.Toml.Numbers

/-!
# Values that were written

A value is read back from the text that stands for it after an equals sign, provided that what it is
made of is: items of a list and members of a table are read one after the other. The bound of the
reader counts two steps for every character, which is what a value, its items and its members need.
-/

namespace DeviceTags.Toml

open Text

/-- Characters that a value starts with: not one that is skipped, nor the end of a list. -/
def Starts (first : Char) : Prop :=
  isBlank first = false ∧ first ≠ '\n' ∧ first ≠ '#' ∧ first ≠ ']'

instance (first : Char) : Decidable (Starts first) :=
  inferInstanceAs (Decidable (_ ∧ _ ∧ _ ∧ _))

/-- The value is read back from its text, with so much room for nesting and enough steps. The text
has no carriage return, which a reader might drop. -/
structure Recovers (level need : Nat) (datum : Datum) : Prop where
  starts : ∃ first more, (writtenValue level datum).toList = first :: more ∧ Starts first
  unreturned : '\r' ∉ (writtenValue level datum).toList
  reads : ∀ c rest bound room, Delimits c →
    2 * ((writtenValue level datum).toList ++ c :: rest).length < bound → need ≤ room →
    value bound room ((writtenValue level datum).toList ++ c :: rest) = .ok (datum, c :: rest)

variable {level need : Nat}

/-! ## Single values -/

theorem recovers_string (text : String) : Recovers level need (.string text) where
  starts := ⟨'"', _, String.toList_ofList, by decide⟩
  unreturned := return_not_mem_writtenString text
  reads c rest bound room hc hbound _ := by
    obtain ⟨bound, rfl⟩ : ∃ fewer, bound = fewer + 1 := ⟨bound - 1, by omega⟩
    change value (bound + 1) room ((writtenString text).toList ++ c :: rest) = _
    unfold value
    rw [string?_written hc]
    rfl

/-- What is neither quoted nor in brackets is a scalar. -/
theorem value_scalar {bound room : Nat} {first : Char} {text : List Char}
    (hfirst : first ≠ '"' ∧ first ≠ '\'' ∧ first ≠ '[' ∧ first ≠ '\x7b') :
    value (bound + 1) room (first :: text) = scalar (first :: text) := by
  have hstring : string? (first :: text) = none := by
    unfold string?
    split <;> simp_all
  unfold value
  rw [hstring]
  dsimp only
  split <;> simp_all

theorem recovers_integer {n : Int} (hfits : isWritable n) : Recovers level need (.integer n) := by
  obtain ⟨first, more, hchars, hfirst⟩ := exists_decimalInt n
  have hother : ∀ d : Char, d ≠ '-' → d.isDigit = false → first ≠ d := by
    rintro d hminus hdigit rfl
    rcases hfirst with rfl | hfirst
    · exact hminus rfl
    · rw [hdigit] at hfirst
      cases hfirst
  constructor
  case starts =>
    refine ⟨first, more, hchars, ?_, hother _ (by decide) rfl, hother _ (by decide) rfl,
      hother _ (by decide) rfl⟩
    have hspace := hother ' ' (by decide) rfl
    have htab := hother '\t' (by decide) rfl
    simp [isBlank, hspace, htab]
  case unreturned => exact return_not_mem_decimalInt n
  case reads =>
    intro c rest bound room hc hbound _
    obtain ⟨bound, rfl⟩ : ∃ fewer, bound = fewer + 1 := ⟨bound - 1, by omega⟩
    have hread := scalar_integer hfits hc rest
    change value (bound + 1) room ((decimalInt n).toList ++ c :: rest) = _
    rw [hchars, List.cons_append] at hread ⊢
    rw [value_scalar, hread]
    exact ⟨hother _ (by decide) rfl, hother _ (by decide) rfl, hother _ (by decide) rfl,
      hother _ (by decide) rfl⟩

theorem recovers_boolean (b : Bool) : Recovers level need (.boolean b) where
  starts := by
    cases b with
    | true => exact ⟨'t', ['r', 'u', 'e'], by simp [writtenValue], by decide⟩
    | false => exact ⟨'f', ['a', 'l', 's', 'e'], by simp [writtenValue], by decide⟩
  unreturned := by
    cases b <;> simp [writtenValue]
  reads c rest bound room hc hbound _ := by
    obtain ⟨bound, rfl⟩ : ∃ fewer, bound = fewer + 1 := ⟨bound - 1, by omega⟩
    change value (bound + 1) room ((if b then "true" else "false").toList ++ c :: rest) = _
    rw [← scalar_boolean b rest]
    cases b with
    | true => exact value_scalar (by decide)
    | false => exact value_scalar (by decide)

/-! ## Inline tables -/

theorem skipBlanks_of_starts {first : Char} (hfirst : isBlank first = false) (more : List Char) :
    skipBlanks (first :: more) = first :: more := by
  simp [skipBlanks, hfirst]

theorem skipBlanks_space (text : List Char) : skipBlanks (' ' :: text) = skipBlanks text := rfl

theorem lookup_eq_none_of_not_mem {α : Type} {key : String} {table : List (String × α)}
    (hkey : key ∉ table.map Prod.fst) : table.lookup key = none := by
  rw [List.lookup_eq_none_iff]
  intro entry hentry
  rw [bne_iff_ne]
  rintro rfl
  exact hkey (List.mem_map_of_mem hentry)

/-- A new key is assigned its value at the end of the table. -/
theorem assign_new {draft : Draft} {key : String} (hkey : key ∉ draft.map Prod.fst)
    (sectionNumber : Nat) (datum : Datum) :
    draft.assign sectionNumber datum [key] = .ok (draft ++ [(key, .value datum)]) := by
  rw [Draft.assign, lookup_eq_none_of_not_mem hkey, Draft.put, mergeEntry_of_not_mem hkey]

/-- The entries of a table whose values are all finished. -/
def finished (entries : List (String × Datum)) : Draft :=
  entries.map fun entry => (entry.1, .value entry.2)

@[simp] theorem keys_finished (entries : List (String × Datum)) :
    (finished entries).map Prod.fst = entries.map Prod.fst := by
  simp [finished, Function.comp_def]

@[simp] theorem finishEntries_finished (entries : List (String × Datum)) :
    finishEntries (finished entries) = entries := by
  induction entries with
  | nil => rfl
  | cons entry rest ih =>
    change (entry.1, (Node.value entry.2).finish) :: finishEntries (finished rest) = _
    rw [ih, Node.finish]

/-- The members of an inline table as they are written, with what follows them. -/
def membersText (entries : List (String × Datum)) : List Char :=
  (", ".intercalate (writtenMembers entries)).toList

theorem membersText_single (key : String) (datum : Datum) :
    membersText [(key, datum)] =
      (writtenKey key).toList ++ ' ' :: '=' :: ' ' :: (writtenValue 0 datum).toList := by
  simp [membersText, writtenMembers]

theorem membersText_cons (key : String) (datum : Datum) (entry : String × Datum)
    (rest : List (String × Datum)) :
    membersText ((key, datum) :: entry :: rest) =
      (writtenKey key).toList ++ ' ' :: '=' :: ' ' :: (writtenValue 0 datum).toList ++
        ',' :: ' ' :: membersText (entry :: rest) := by
  obtain ⟨name, other⟩ := entry
  simp [membersText, writtenMembers]

theorem return_not_mem_membersText {entries : List (String × Datum)}
    (hvalues : ∀ entry ∈ entries, Recovers 0 need entry.2) : '\r' ∉ membersText entries := by
  induction entries with
  | nil => simp [membersText, writtenMembers]
  | cons entry more ih =>
    obtain ⟨key, datum⟩ := entry
    have hkey := return_not_mem_writtenKey key
    have hvalue := (hvalues (key, datum) List.mem_cons_self).unreturned
    have hmore := ih fun entry hentry => hvalues entry (List.mem_cons_of_mem _ hentry)
    cases more with
    | nil =>
      rw [membersText_single]
      simp [hkey, hvalue]
    | cons other more =>
      rw [membersText_cons]
      simp [hkey, hvalue, hmore]

/-- One member is read up to what follows its value. -/
theorem members_member {key : String} {datum : Datum} (hdatum : Recovers 0 need datum)
    {draft : Draft} (hnew : key ∉ draft.map Prod.fst) {c : Char} (hc : Delimits c)
    (rest : List Char) {bound room : Nat}
    (hbound : 2 * ((writtenValue 0 datum).toList ++ c :: rest).length < bound) (hroom : need ≤ room) :
    members (bound + 1) room draft
        ((writtenKey key).toList ++ ' ' :: '=' :: ' ' :: ((writtenValue 0 datum).toList ++ c :: rest)) =
      match skipBlanks (c :: rest) with
      | '\x7d' :: after => .ok (draft ++ [(key, .value datum)], after)
      | ',' :: after => members bound room (draft ++ [(key, .value datum)]) (skipBlanks after)
      | _ => .error .malformed := by
  have hread := hdatum.reads c rest bound room hc hbound hroom
  obtain ⟨first, more, htext, hstarts⟩ := hdatum.starts
  rw [htext, List.cons_append] at hread ⊢
  rw [members, key_written]
  change (value bound room (skipBlanks (' ' :: first :: (more ++ c :: rest))) >>= fun found =>
    draft.assign 0 found.1 [key] >>= _) = _
  rw [skipBlanks_space, skipBlanks_of_starts hstarts.1, hread]
  change (draft.assign 0 datum [key] >>= _) = _
  rw [assign_new hnew]
  rfl

/-- The text of a key starts with neither a blank nor a brace. -/
theorem exists_membersText (entry : String × Datum) (entries : List (String × Datum)) :
    ∃ first more, membersText (entry :: entries) = first :: more ∧ isBlank first = false ∧
      first ≠ '\x7d' := by
  obtain ⟨key, datum⟩ := entry
  obtain ⟨first, more, hkey, hfirst⟩ := exists_writtenKey key
  have hplain : isBlank first = false ∧ first ≠ '\x7d' :=
    ⟨hfirst.isBlank, hfirst.ne rfl (by decide)⟩
  cases entries with
  | nil => exact ⟨first, _, by rw [membersText_single, hkey]; rfl, hplain⟩
  | cons other entries => exact ⟨first, _, by rw [membersText_cons, hkey]; rfl, hplain⟩

theorem skipBlanks_membersText (entry : String × Datum) (entries : List (String × Datum))
    (rest : List Char) :
    skipBlanks (membersText (entry :: entries) ++ rest) = membersText (entry :: entries) ++ rest := by
  obtain ⟨first, more, htext, hplain, -⟩ := exists_membersText entry entries
  rw [htext]
  exact skipBlanks_of_starts hplain _

/-- The members of an inline table are read one after the other. -/
theorem members_written {entries : List (String × Datum)} (hsome : entries ≠ []) {draft : Draft}
    (honce : (draft.map Prod.fst ++ entries.map Prod.fst).Nodup)
    (hvalues : ∀ entry ∈ entries, Recovers 0 need entry.2) (rest : List Char) {bound room : Nat}
    (hbound : 2 * (membersText entries ++ ' ' :: '\x7d' :: rest).length + 1 < bound)
    (hroom : need ≤ room) :
    members bound room draft (membersText entries ++ ' ' :: '\x7d' :: rest) =
      .ok (draft ++ finished entries, rest) := by
  induction entries generalizing draft bound with
  | nil => exact absurd rfl hsome
  | cons entry more ih =>
    obtain ⟨key, datum⟩ := entry
    obtain ⟨bound, rfl⟩ : ∃ fewer, bound = fewer + 1 := ⟨bound - 1, by omega⟩
    have hnew : key ∉ draft.map Prod.fst := by
      intro hmem
      exact (List.nodup_append.mp honce).2.2 key hmem key (by simp) rfl
    have hdatum := hvalues (key, datum) List.mem_cons_self
    cases more with
    | nil =>
      rw [membersText_single] at hbound ⊢
      simp only [List.append_assoc, List.cons_append] at hbound ⊢
      have hfits : 2 * ((writtenValue 0 datum).toList ++ ' ' :: '\x7d' :: rest).length < bound := by
        simp only [List.length_append, List.length_cons] at hbound ⊢
        omega
      exact members_member hdatum hnew (.inl rfl) _ hfits hroom
    | cons other more =>
      have hkeys : ((draft ++ [(key, Node.value datum)]).map Prod.fst ++
          (other :: more).map Prod.fst).Nodup := by
        simpa using honce
      rw [membersText_cons] at hbound ⊢
      simp only [List.append_assoc, List.cons_append] at hbound ⊢
      have hfits : 2 * ((writtenValue 0 datum).toList ++ ',' :: ' ' ::
          (membersText (other :: more) ++ ' ' :: '\x7d' :: rest)).length < bound := by
        simp only [List.length_append, List.length_cons] at hbound ⊢
        omega
      calc members (bound + 1) room draft _
        _ = members bound room (draft ++ [(key, .value datum)])
              (skipBlanks (' ' :: (membersText (other :: more) ++ ' ' :: '\x7d' :: rest))) :=
          members_member hdatum hnew (.inr (.inl rfl)) _ hfits hroom
        _ = .ok (draft ++ [(key, .value datum)] ++ finished (other :: more), rest) := by
          rw [skipBlanks_space, skipBlanks_membersText,
            ih (by simp) hkeys fun entry hentry => hvalues entry (List.mem_cons_of_mem _ hentry)]
          simp only [List.length_append, List.length_cons] at hfits ⊢
          omega
        _ = .ok (draft ++ finished ((key, datum) :: other :: more), rest) := by
          rw [List.append_assoc]
          rfl

/-- Inside a brace that is not closed at once there are members. -/
theorem value_brace {first : Char} (hplain : isBlank first = false) (hfirst : first ≠ '\x7d')
    (text : List Char) {bound room : Nat} (hroom : 3 ≤ room) :
    value (bound + 1) room ('\x7b' :: ' ' :: first :: text) =
      members bound (room - 3) [] (first :: text) >>= fun found =>
        .ok (.table (finishEntries found.1), found.2) := by
  have henter : enter room 3 = .ok (room - 3) := if_pos hroom
  change (enter room 3 >>= _) = _
  rw [henter]
  dsimp only [bind, Except.bind]
  rw [skipBlanks_space, skipBlanks_of_starts hplain]
  split
  · next heq => exact absurd (List.cons.inj heq).1 hfirst
  · rfl

/-- An inline table is read back if its members are. -/
theorem recovers_table {entries : List (String × Datum)} (honce : (entries.map Prod.fst).Nodup)
    (hvalues : ∀ entry ∈ entries, Recovers 0 need entry.2) :
    Recovers level (need + 3) (.table entries) := by
  cases entries with
  | nil =>
    have htext : (writtenValue level (.table [])).toList = ['\x7b', '\x7d'] := by
      simp [writtenValue]
    constructor
    case starts => exact ⟨'\x7b', ['\x7d'], htext, by decide⟩
    case unreturned => simp [htext]
    case reads =>
      intro c rest bound room hc hbound hroom
      obtain ⟨bound, rfl⟩ : ∃ fewer, bound = fewer + 1 := ⟨bound - 1, by omega⟩
      have henter : enter room 3 = .ok (room - 3) := if_pos (by omega)
      rw [htext]
      change (enter room 3 >>= _) = _
      rw [henter]
      rfl
  | cons entry more =>
    obtain ⟨first, others, hmembers, hplain, hfirst⟩ := exists_membersText entry more
    have htext : (writtenValue level (.table (entry :: more))).toList =
        '\x7b' :: ' ' :: (membersText (entry :: more) ++ [' ', '\x7d']) := by
      simp [writtenValue, membersText]
    constructor
    case starts => exact ⟨'\x7b', _, htext, by decide⟩
    case unreturned => simp [htext, return_not_mem_membersText hvalues]
    case reads =>
      intro c rest bound room hc hbound hroom
      obtain ⟨bound, rfl⟩ : ∃ fewer, bound = fewer + 1 := ⟨bound - 1, by omega⟩
      rw [htext] at hbound ⊢
      simp only [List.append_assoc, List.cons_append, List.nil_append] at hbound ⊢
      have hkeys : (([] : Draft).map Prod.fst ++ (entry :: more).map Prod.fst).Nodup := by
        simpa using honce
      have hread : members bound (room - 3) []
          (membersText (entry :: more) ++ ' ' :: '\x7d' :: c :: rest) =
            .ok (finished (entry :: more), c :: rest) := by
        refine members_written (by simp) hkeys hvalues (c :: rest) ?_ (by omega)
        simp only [List.length_append, List.length_cons] at hbound ⊢
        omega
      rw [hmembers, List.cons_append] at hread ⊢
      rw [value_brace hplain hfirst _ (by omega), hread]
      change Except.ok (Datum.table (finishEntries (finished (entry :: more))), c :: rest) = _
      rw [finishEntries_finished]

/-! ## Lists -/

theorem skipSpace_of_starts {first : Char} (hfirst : Starts first) (more : List Char) :
    skipSpace (first :: more) = .ok (first :: more) := by
  obtain ⟨hblank, hbreak, hcomment, -⟩ := hfirst
  simp [skipSpace, skipSpaceFrom, hblank, hbreak, hcomment]

theorem skipSpace_break (text : List Char) : skipSpace ('\n' :: text) = skipSpace text := rfl

theorem skipSpace_indent (level : Nat) (text : List Char) :
    skipSpace ((indent level).toList ++ text) = skipSpace text := by
  rw [indent, String.toList_ofList]
  induction 4 * level with
  | zero => rfl
  | succ count ih =>
    rw [List.replicate_succ]
    exact ih

/-- The lines of the items of a list. -/
def listing (level : Nat) : List Datum → List Char
  | [] => []
  | item :: rest =>
    (indent (level + 1)).toList ++ ((writtenValue (level + 1) item).toList ++
      ',' :: '\n' :: listing level rest)

theorem writtenValue_array (level : Nat) (item : Datum) (rest : List Datum) :
    (writtenValue level (.array (item :: rest))).toList =
      '[' :: '\n' :: (listing level (item :: rest) ++ ((indent level).toList ++ [']'])) := by
  have hlines : ∀ item, (",\n".intercalate (writtenItems level (item :: rest)) ++ ",\n").toList =
      listing level (item :: rest) := by
    induction rest with
    | nil => simp [writtenItems, listing]
    | cons next rest ih =>
      intro item
      rw [listing, ← ih next]
      simp [writtenItems]
  rw [← hlines item]
  simp [writtenValue]

theorem return_not_mem_listing {list : List Datum}
    (hitems : ∀ item ∈ list, Recovers (level + 1) need item) : '\r' ∉ listing level list := by
  induction list with
  | nil => simp [listing]
  | cons item more ih =>
    have hitem := (hitems item List.mem_cons_self).unreturned
    have hmore := ih fun item hmem => hitems item (List.mem_cons_of_mem _ hmem)
    simp [listing, indent, hitem, hmore]

/-- One item is read up to the next line. -/
theorem items_item {item : Datum} (hitem : Recovers (level + 1) need item) (rest : List Char)
    {bound room : Nat}
    (hbound : 2 * ((writtenValue (level + 1) item).toList ++ ',' :: '\n' :: rest).length < bound)
    (hroom : need ≤ room) :
    items (bound + 1) room ((writtenValue (level + 1) item).toList ++ ',' :: '\n' :: rest) =
      skipSpace rest >>= fun text => items bound room text >>= fun found =>
        .ok (item :: found.1, found.2) := by
  have hread := hitem.reads ',' ('\n' :: rest) bound room (.inr (.inl rfl)) hbound hroom
  obtain ⟨first, more, htext, -, -, -, hopen⟩ := hitem.starts
  rw [htext, List.cons_append] at hread ⊢
  rw [items, hread]
  · rfl
  · exact fun after heq => hopen (List.cons.inj heq).1

/-- The items of a list are read one after the other. -/
theorem items_written {list : List Datum} (hitems : ∀ item ∈ list, Recovers (level + 1) need item)
    (rest : List Char) {bound room : Nat}
    (hbound : 2 * (listing level list ++ ((indent level).toList ++ ']' :: rest)).length + 1 < bound)
    (hroom : need ≤ room) :
    (skipSpace (listing level list ++ ((indent level).toList ++ ']' :: rest)) >>= items bound room) =
      .ok (list, rest) := by
  induction list generalizing bound with
  | nil =>
    obtain ⟨bound, rfl⟩ : ∃ fewer, bound = fewer + 1 := ⟨bound - 1, by omega⟩
    rw [listing, List.nil_append, skipSpace_indent]
    rfl
  | cons item list ih =>
    obtain ⟨bound, rfl⟩ : ∃ fewer, bound = fewer + 1 := ⟨bound - 1, by omega⟩
    have hitem := hitems item List.mem_cons_self
    obtain ⟨first, more, htext, hstarts⟩ := hitem.starts
    rw [listing] at hbound ⊢
    simp only [List.append_assoc, List.cons_append] at hbound ⊢
    have hskip : skipSpace ((indent (level + 1)).toList ++ ((writtenValue (level + 1) item).toList ++
        ',' :: '\n' :: (listing level list ++ ((indent level).toList ++ ']' :: rest)))) =
          .ok ((writtenValue (level + 1) item).toList ++
            ',' :: '\n' :: (listing level list ++ ((indent level).toList ++ ']' :: rest))) := by
      rw [skipSpace_indent, htext]
      exact skipSpace_of_starts hstarts _
    rw [hskip]
    change items (bound + 1) room _ = _
    simp only [List.length_append, List.length_cons] at hbound
    rw [items_item hitem _ _ hroom, ← bind_assoc,
      ih fun item hmem => hitems item (List.mem_cons_of_mem _ hmem)]
    · rfl
    · simp only [List.length_append, List.length_cons]
      omega
    · simp only [List.length_append, List.length_cons]
      omega

/-- Inside a bracket there are items. -/
theorem value_bracket (text : List Char) {bound room : Nat} (hroom : 2 ≤ room) :
    value (bound + 1) room ('[' :: text) =
      (skipSpace text >>= items bound (room - 2)) >>= fun found =>
        .ok (.array found.1, found.2) := by
  have henter : enter room 2 = .ok (room - 2) := if_pos hroom
  change (enter room 2 >>= _) = _
  rw [henter, bind_assoc]
  rfl

/-- A list is read back if its items are. -/
theorem recovers_array {list : List Datum} (hsome : list ≠ [])
    (hitems : ∀ item ∈ list, Recovers (level + 1) need item) :
    Recovers level (need + 2) (.array list) := by
  obtain ⟨item, more, rfl⟩ := List.exists_cons_of_ne_nil hsome
  constructor
  case starts => exact ⟨'[', _, writtenValue_array level item more, by decide⟩
  case unreturned =>
    rw [writtenValue_array]
    simp [return_not_mem_listing hitems, indent]
  case reads =>
    intro c rest bound room hc hbound hroom
    obtain ⟨bound, rfl⟩ : ∃ fewer, bound = fewer + 1 := ⟨bound - 1, by omega⟩
    rw [writtenValue_array] at hbound ⊢
    simp only [List.append_assoc, List.cons_append, List.nil_append] at hbound ⊢
    have hread : (skipSpace (listing level (item :: more) ++ ((indent level).toList ++
        ']' :: c :: rest)) >>= items bound (room - 2)) = .ok (item :: more, c :: rest) := by
      refine items_written hitems (c :: rest) ?_ (by omega)
      simp only [List.length_append, List.length_cons] at hbound ⊢
      omega
    rw [value_bracket _ (by omega), skipSpace_break, hread]
    rfl

end DeviceTags.Toml
