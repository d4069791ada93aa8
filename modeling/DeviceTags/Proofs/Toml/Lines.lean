import DeviceTags.Proofs.Toml.Values

/-!
# Lines that were written

A document is read line by line. A block of written lines takes the reader from what was read before
to what has been read after it, whatever follows, so that blocks can be put one after the other. An
assignment adds to the table that the last header opened, and a header opens a table at the end.
-/

namespace DeviceTags.Toml

variable {before middle after : Progress} {text more : List Char}

/-- A block of lines takes the reader from one progress to another, whatever follows it. It has no
carriage return, which is dropped before a line break. -/
structure Passes (before : Progress) (text : List Char) (after : Progress) : Prop where
  unreturned : '\r' ∉ text
  reads : ∀ rest bound, (text ++ rest).length < bound → ∃ left, rest.length < left ∧
    statements bound before (text ++ rest) = statements left after rest

theorem Passes.nil (progress : Progress) : Passes progress [] progress :=
  ⟨List.not_mem_nil, fun _ bound hbound => ⟨bound, hbound, rfl⟩⟩

theorem Passes.append (hfirst : Passes before text middle) (hsecond : Passes middle more after) :
    Passes before (text ++ more) after where
  unreturned := by simp [hfirst.unreturned, hsecond.unreturned]
  reads rest bound hbound := by
    rw [List.append_assoc] at hbound ⊢
    obtain ⟨left, hleft, hread⟩ := hfirst.reads (more ++ rest) bound hbound
    obtain ⟨last, hlast, hmore⟩ := hsecond.reads rest left hleft
    exact ⟨last, hlast, hread.trans hmore⟩

/-- A line that holds one statement. -/
theorem passes_line {first : Char} (hblank : isBlank first = false) (hbreak : first ≠ '\n')
    (hreturn : '\r' ∉ first :: text)
    (hstatement : ∀ rest, statement before (first :: (text ++ '\n' :: rest)) =
      .ok (after, '\n' :: rest)) :
    Passes before (first :: (text ++ ['\n'])) after where
  unreturned := by simpa using hreturn
  reads rest bound hbound := by
    simp only [List.cons_append, List.append_assoc, List.nil_append] at hbound ⊢
    obtain ⟨left, rfl⟩ : ∃ left, bound = left + 1 := ⟨bound - 1, by omega⟩
    refine ⟨left, ?_, ?_⟩
    · simp only [List.length_cons, List.length_append] at hbound
      omega
    · rw [statements, skipBlanks_of_starts hblank]
      split
      · next heq => cases heq
      · next heq => exact absurd (List.cons.inj heq).1 hbreak
      · rw [hstatement rest]
        rfl

/-- An empty line. -/
theorem passes_break (progress : Progress) : Passes progress ['\n'] progress where
  unreturned := by decide
  reads rest bound hbound := by
    obtain ⟨left, rfl⟩ : ∃ left, bound = left + 1 := ⟨bound - 1, by omega⟩
    refine ⟨left, ?_, rfl⟩
    simp only [List.length_cons, List.length_append] at hbound
    omega

theorem joinLineEnds_of_not_mem (hreturn : '\r' ∉ text) : joinLineEnds text = text := by
  induction text with
  | nil => rfl
  | cons c text ih =>
    rw [List.mem_cons, not_or] at hreturn
    unfold joinLineEnds
    split
    · next heq => exact absurd (List.cons.inj heq).1.symm hreturn.1
    · next heq =>
      cases heq
      rw [ih hreturn.2]
    · next heq => cases heq

/-- A document that is one block of lines. -/
theorem Passes.read {text : String} (hpasses : Passes {} text.toList after) :
    Toml.read text = .ok (finishEntries after.draft) := by
  obtain ⟨left, hleft, hread⟩ := hpasses.reads [] (text.toList.length + 1) (by simp)
  obtain ⟨left, rfl⟩ : ∃ fewer, left = fewer + 1 := ⟨left - 1, by omega⟩
  rw [List.append_nil] at hread
  rw [Toml.read]
  rw [joinLineEnds_of_not_mem hpasses.unreturned, hread]
  rfl

/-! ## Tables at the end of a document -/

theorem lookup_last {α : Type} {key : String} {front : List (String × α)}
    (hnew : key ∉ front.map Prod.fst) (value : α) :
    (front ++ [(key, value)]).lookup key = some value := by
  rw [List.lookup_append, lookup_eq_none_of_not_mem hnew, Option.none_or, List.lookup_cons_self]

/-- A document with a table at a path: a change at the path or below it is a change of that table. -/
structure Opens (around : Draft → Draft) (path : List String) : Prop where
  within : ∀ table change below,
    (around table).within change (path ++ below) = (table.within change below).map around
  declare : ∀ table below, below ≠ [] →
    (around table).declare (path ++ below) = (table.declare below).map around

variable {around inner : Draft → Draft} {path below : List String} {front : Draft} {key : String}

/-- At the top, the table is the document. -/
theorem opens_top : Opens id [] where
  within table change below := by
    rw [List.nil_append]
    change table.within change below = _
    cases table.within change below <;> rfl
  declare table below _ := by
    rw [List.nil_append]
    change table.declare below = _
    cases table.declare below <;> rfl

/-- Where the last entry holds a table through which paths go on, the document has that table at
the key of the entry. -/
theorem opens_entry {node : Draft → Node} (hnew : key ∉ front.map Prod.fst)
    (hwithin : ∀ draft table change below, List.lookup key draft = some (node table) →
      Draft.within draft change (key :: below) =
        (Draft.within table change below).map (Draft.put draft key <| node ·))
    (hdeclare : ∀ draft table below, below ≠ [] → List.lookup key draft = some (node table) →
      Draft.declare draft (key :: below) =
        (Draft.declare table below).map (Draft.put draft key <| node ·)) :
    Opens (fun table => front ++ [(key, node table)]) [key] where
  within table change below := by
    rw [List.singleton_append, hwithin _ table _ _ (lookup_last hnew _)]
    exact congrArg (Except.map · _) (funext fun changed => mergeEntry_last hnew _ _)
  declare table below hbelow := by
    rw [List.singleton_append, hdeclare _ table _ hbelow (lookup_last hnew _)]
    exact congrArg (Except.map · _) (funext fun changed => mergeEntry_last hnew _ _)

theorem opens_table (hnew : key ∉ front.map Prod.fst) (origin : Origin) :
    Opens (fun table => front ++ [(key, .table origin table)]) [key] := by
  refine opens_entry hnew (fun draft table change below hfound => ?_)
    fun draft table below hbelow hfound => ?_
  · rw [Draft.within, hfound]
    exact bind_pure_comp _ _
  · rw [Draft.declare, hfound]
    · exact bind_pure_comp _ _
    · exact hbelow

/-- In a list of tables, the last one is open. -/
theorem opens_last (hnew : key ∉ front.map Prod.fst) (earlier : List Draft) :
    Opens (fun table => front ++ [(key, .tables earlier table)]) [key] := by
  refine opens_entry hnew (fun draft table change below hfound => ?_)
    fun draft table below hbelow hfound => ?_
  · rw [Draft.within, hfound]
    exact bind_pure_comp _ _
  · rw [Draft.declare, hfound]
    · exact bind_pure_comp _ _
    · exact hbelow

/-- A table in a table. -/
theorem Opens.comp (houter : Opens around path) (hinner : Opens inner below) :
    Opens (around ∘ inner) (path ++ below) where
  within table change more := by
    rw [List.append_assoc, Function.comp_apply, houter.within, hinner.within]
    cases table.within change more <;> rfl
  declare table more hmore := by
    rw [List.append_assoc, Function.comp_apply, houter.declare _ _ (by simp [hmore]),
      hinner.declare _ _ hmore]
    cases table.declare more <;> rfl

/-- A key that is not there yet is declared at the end. -/
theorem declare_new {table : Draft} (hnew : key ∉ table.map Prod.fst) :
    table.declare [key] = .ok (table ++ [(key, .table .declared [])]) := by
  rw [Draft.declare, lookup_eq_none_of_not_mem hnew, Draft.put, mergeEntry_of_not_mem hnew]

/-! ## Assignments -/

/-- The line of an entry that stands after an equals sign. -/
def lineOf (entry : String × Datum) : List Char :=
  (writtenKey entry.1).toList ++ ' ' :: '=' :: ' ' :: ((writtenValue 0 entry.2).toList ++ ['\n'])

theorem toList_line (entry : String × Datum) :
    (writtenKey entry.1 ++ " = " ++ writtenValue 0 entry.2 ++ "\n").toList = lineOf entry := by
  simp [lineOf]

/-- An assignment adds to the table that the last header opened. -/
theorem passes_assignment {need : Nat} {name : String} {datum : Datum} {draft : Draft}
    (hdatum : Recovers 0 need datum) (hneed : need ≤ nestingRoom)
    (hwithin : before.draft.within (·.assign before.sectionNumber datum [name]) before.header =
      .ok draft) :
    Passes before (lineOf (name, datum)) { before with draft } := by
  obtain ⟨first, more, hname, hstarts⟩ := exists_writtenKey name
  obtain ⟨head, tail, hvalue, hhead⟩ := hdatum.starts
  have hline : lineOf (name, datum) =
      first :: ((more ++ ' ' :: '=' :: ' ' :: (writtenValue 0 datum).toList) ++ ['\n']) := by
    simp [lineOf, hname]
  rw [hline]
  refine passes_line hstarts.isBlank (hstarts.ne rfl (by decide)) ?_ fun rest => ?_
  · have hkey := return_not_mem_writtenKey name
    rw [hname] at hkey
    have hdatum := hdatum.unreturned
    simp_all
  · have hkey := key_written (' ' :: ((writtenValue 0 datum).toList ++ '\n' :: rest)) name
    have hread := hdatum.reads '\n' rest (2 * (first :: ((more ++ ' ' :: '=' :: ' ' ::
      (writtenValue 0 datum).toList) ++ '\n' :: rest)).length + 2) nestingRoom (.inr (.inr rfl)) (by
        simp only [List.length_append, List.length_cons]
        omega) hneed
    rw [hname] at hkey
    simp only [List.append_assoc, List.cons_append] at hkey hread ⊢
    unfold statement
    split
    · next heq => exact absurd (List.cons.inj heq).1 (hstarts.ne rfl (by decide))
    · next heq => exact absurd (List.cons.inj heq).1 (hstarts.ne rfl (by decide))
    · next heq => exact absurd (List.cons.inj heq).1 (hstarts.ne rfl (by decide))
    · rw [hvalue, List.cons_append] at hkey hread ⊢
      rw [hkey]
      change (value _ nestingRoom (skipBlanks (' ' :: head :: (tail ++ '\n' :: rest))) >>=
        fun found => before.draft.within (·.assign before.sectionNumber found.1 [name])
          before.header >>= fun draft => _) = _
      rw [skipBlanks_space, skipBlanks_of_starts hhead.1, hread]
      change (before.draft.within (·.assign before.sectionNumber datum [name]) before.header >>=
        fun draft => _) = _
      rw [hwithin]
      rfl

/-- The entries of a table are assigned one after the other. -/
theorem passes_lines {need sectionNumber : Nat} (hneed : need ≤ nestingRoom)
    (hopens : Opens around path) {table : Draft} {entries : List (String × Datum)}
    (honce : (table.map Prod.fst ++ entries.map Prod.fst).Nodup)
    (hvalues : ∀ entry ∈ entries, Recovers 0 need entry.2) :
    Passes ⟨around table, path, sectionNumber⟩ (entries.flatMap lineOf)
      ⟨around (table ++ finished entries), path, sectionNumber⟩ := by
  induction entries generalizing table with
  | nil =>
    rw [finished, List.map_nil, List.append_nil]
    exact .nil _
  | cons entry entries ih =>
    obtain ⟨name, datum⟩ := entry
    have hnew : name ∉ table.map Prod.fst := by
      intro hmem
      exact (List.nodup_append.mp honce).2.2 name hmem name (by simp) rfl
    have hkeys : ((table ++ [(name, Node.value datum)]).map Prod.fst ++
        entries.map Prod.fst).Nodup := by
      simpa using honce
    have hline : Passes ⟨around table, path, sectionNumber⟩ (lineOf (name, datum))
        ⟨around (table ++ [(name, .value datum)]), path, sectionNumber⟩ := by
      refine passes_assignment (hvalues (name, datum) List.mem_cons_self) hneed ?_
      have hwithin := hopens.within table (·.assign sectionNumber datum [name]) []
      rw [List.append_nil, Draft.within, assign_new hnew] at hwithin
      exact hwithin
    have hlines := ih hkeys fun entry hentry => hvalues entry (List.mem_cons_of_mem _ hentry)
    rw [List.append_assoc] at hlines
    exact hline.append hlines

/-! ## Headers -/

/-- The text of the path of a header. -/
structure Names (name : String) (path : List String) : Prop where
  starts : ∃ first more, name.toList = first :: more ∧ StartsKey first
  unreturned : '\r' ∉ name.toList
  reads : ∀ rest, Toml.key (name.toList ++ ']' :: rest) = .ok (path, ']' :: rest)

theorem Names.ne_empty {name : String} (hnames : Names name path) : name ≠ "" := by
  rintro rfl
  obtain ⟨first, more, htext, -⟩ := hnames.starts
  cases htext

theorem keyParts_bracket (name : String) (rest : List Char) (bound : Nat) :
    keyParts (bound + 1) ((writtenKey name).toList ++ ']' :: rest) = .ok ([name], ']' :: rest) := by
  rw [keyParts, keyPart_written _ _ (by decide)]
  rfl

theorem names_key (key : String) : Names (writtenKey key) [key] where
  starts := exists_writtenKey key
  unreturned := return_not_mem_writtenKey key
  reads rest := keyParts_bracket key rest _

theorem names_below (key name : String) :
    Names (writtenKey key ++ "." ++ writtenKey name) [key, name] where
  starts := by
    obtain ⟨first, more, hkey, hstarts⟩ := exists_writtenKey key
    exact ⟨first, _, by rw [String.toList_append, String.toList_append, hkey]; rfl, hstarts⟩
  unreturned := by
    simp [return_not_mem_writtenKey]
  reads rest := by
    have htext : (writtenKey key ++ "." ++ writtenKey name).toList ++ ']' :: rest =
        (writtenKey key).toList ++ '.' :: ((writtenKey name).toList ++ ']' :: rest) := by
      simp
    obtain ⟨first, more, hname, hstarts⟩ := exists_writtenKey name
    obtain ⟨bound, hbound⟩ : ∃ bound, ((writtenKey key).toList ++
        '.' :: ((writtenKey name).toList ++ ']' :: rest)).length = bound + 1 :=
      ⟨_, by rw [List.length_append, List.length_cons, Nat.add_succ]⟩
    have hlast := keyParts_bracket name rest bound
    rw [htext, Toml.key, hbound, keyParts, keyPart_written _ _ (by decide)]
    rw [hname, List.cons_append] at hlast ⊢
    change keyParts (bound + 1) (skipBlanks (first :: (more ++ ']' :: rest))) >>= _ = _
    rw [skipBlanks_of_starts hstarts.isBlank, hlast]
    rfl

variable {draft : Draft} {name : String}

/-- A header opens the table at its path. -/
theorem passes_header (hnames : Names name path) (hdeclare : before.draft.declare path = .ok draft) :
    Passes before ("[" ++ name ++ "]\n").toList ⟨draft, path, before.sectionNumber + 1⟩ := by
  obtain ⟨first, more, hname, hstarts⟩ := hnames.starts
  have hline : ("[" ++ name ++ "]\n").toList = '[' :: ((name.toList ++ [']']) ++ ['\n']) := by
    simp
  rw [hline]
  refine passes_line rfl (by decide) (by simp [hnames.unreturned]) fun rest => ?_
  have hkey := hnames.reads ('\n' :: rest)
  rw [List.append_assoc, List.singleton_append]
  rw [hname, List.cons_append] at hkey ⊢
  unfold statement
  split
  · next heq => exact absurd (List.cons.inj (List.cons.inj heq).2).1 (hstarts.ne rfl (by decide))
  · next heq =>
    rw [← (List.cons.inj heq).2, skipBlanks_of_starts hstarts.isBlank, hkey]
    change (before.draft.declare path >>= _) = _
    rw [hdeclare]
    rfl
  · next heq => cases heq
  · next hother _ => exact absurd rfl (hother _)

/-- A header in double brackets opens another element of the list at its path. -/
theorem passes_elementHeader (hnames : Names name path)
    (hdeclare : before.draft.declareElement path = .ok draft) :
    Passes before ("[[" ++ name ++ "]]\n").toList ⟨draft, path, before.sectionNumber + 1⟩ := by
  obtain ⟨first, more, hname, hstarts⟩ := hnames.starts
  have hline : ("[[" ++ name ++ "]]\n").toList =
      '[' :: (('[' :: name.toList ++ [']', ']']) ++ ['\n']) := by
    simp
  rw [hline]
  refine passes_line rfl (by decide) (by simp [hnames.unreturned]) fun rest => ?_
  have hkey := hnames.reads (']' :: '\n' :: rest)
  have htext : '[' :: (('[' :: name.toList ++ [']', ']']) ++ '\n' :: rest) =
      '[' :: '[' :: (name.toList ++ ']' :: ']' :: '\n' :: rest) := by
    simp
  rw [htext]
  rw [hname, List.cons_append] at hkey ⊢
  rw [statement, skipBlanks_of_starts hstarts.isBlank, hkey]
  change (before.draft.declareElement path >>= _) = _
  rw [hdeclare]
  rfl

end DeviceTags.Toml
