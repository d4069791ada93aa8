import DeviceTags.Proofs.Toml.Lines

/-!
# Tables that were written

A table of texts, truth values and whole numbers is one block of lines: its header and an assignment
for each entry. A list of tables that hold one such table each is a block for each element. What is
read from the blocks of a document is the document, whether a list of tables is written on lines of
its own or in one value before everything else.
-/

namespace DeviceTags.Toml

open Text

/-! ## Plain tables -/

/-- Values that are neither lists nor tables, and have a text. -/
inductive Plain : Datum → Prop
  | string (text : String) : Plain (.string text)
  | boolean (value : Bool) : Plain (.boolean value)
  | integer {value : Int} (hfits : isWritable value) : Plain (.integer value)

namespace Plain

variable {datum : Datum} (hplain : Plain datum)

include hplain

theorem recovers (level need : Nat) : Recovers level need datum := by
  cases hplain with
  | string text => exact recovers_string text
  | boolean value => exact recovers_boolean value
  | integer hfits => exact recovers_integer hfits

theorem placement : Toml.placement datum = .inline := by
  cases hplain <;> rfl

theorem tablesOf? : Toml.tablesOf? datum = none := by
  cases hplain <;> rfl

theorem obstacle? (room : Nat) : Toml.obstacle? room datum = none := by
  cases hplain with
  | string text => rw [Toml.obstacle?] <;> simp
  | boolean value => rw [Toml.obstacle?] <;> simp
  | integer hfits => rw [Toml.obstacle?, if_pos hfits]

end Plain

/-- A table of plain values under different keys. -/
structure PlainTable (entries : List (String × Datum)) : Prop where
  once : (entries.map Prod.fst).Nodup
  plain : ∀ entry ∈ entries, Plain entry.2

section

variable {entries : List (String × Datum)} (hplain : ∀ entry ∈ entries, Plain entry.2)

include hplain

theorem inlineLines_of_plain :
    inlineLines entries =
      entries.map fun entry => writtenKey entry.1 ++ " = " ++ writtenValue 0 entry.2 ++ "\n" := by
  rw [inlineLines, ← List.filterMap_eq_map]
  apply List.filterMap_congr
  intro entry hentry
  rw [(hplain entry hentry).placement]
  rfl

theorem subtables_of_plain : subtables entries = [] := by
  rw [subtables, List.flatMap_eq_nil_iff]
  intro entry hentry
  rw [(hplain entry hentry).placement]

theorem join_inlineLines : (String.join (inlineLines entries)).toList = entries.flatMap lineOf := by
  rw [inlineLines_of_plain hplain, String.toList_join, List.flatMap_map]
  congr 1
  funext entry
  exact toList_line entry

end

/-! ## Blocks -/

/-- Blocks with an empty line before each of them. -/
def spaced (blocks : List String) : List Char :=
  blocks.flatMap fun block => '\n' :: block.toList

/-- The text of a table has an empty line before each block but the first. -/
theorem spaced_eq {blocks : List String} (hsome : blocks ≠ []) :
    spaced blocks = '\n' :: ("\n".intercalate blocks).toList := by
  obtain ⟨block, blocks, rfl⟩ := List.exists_cons_of_ne_nil hsome
  induction blocks generalizing block with
  | nil => simp [spaced]
  | cons next blocks ih =>
    change '\n' :: block.toList ++ spaced (next :: blocks) = _
    rw [ih next (by simp)]
    simp

/-- An empty line may be left out. -/
theorem Passes.of_break {before after : Progress} {text : List Char}
    (hpasses : Passes before ('\n' :: text) after) : Passes before text after where
  unreturned := fun hreturn => hpasses.unreturned (List.mem_cons_of_mem _ hreturn)
  reads rest bound hbound := by
    obtain ⟨left, hleft, hread⟩ := hpasses.reads rest (bound + 1) (by
      simp only [List.cons_append, List.length_cons]
      omega)
    exact ⟨left, hleft, hread⟩

theorem Passes.block {before middle after : Progress} {block : String} {blocks : List String}
    (hblock : Passes before block.toList middle) (hblocks : Passes middle (spaced blocks) after) :
    Passes before (spaced (block :: blocks)) after :=
  ((passes_break before).append hblock).append hblocks

/-- Blocks are read one after the other. -/
theorem read_blocks {after : Progress} {blocks : List String} (hsome : blocks ≠ [])
    (hpasses : Passes {} (spaced blocks) after) :
    Toml.read ("\n".intercalate blocks) = .ok (finishEntries after.draft) := by
  rw [spaced_eq hsome] at hpasses
  exact hpasses.of_break.read

/-! ## Tables with a header -/

section

variable {around : Draft → Draft} {path : List String} {table : Draft} {key name : String}
  {entries : List (String × Datum)}

theorem tableText_plain (hplain : ∀ entry ∈ entries, Plain entry.2) (hname : name ≠ "")
    (depth : Nat) :
    (tableText (depth + 1) name false entries).toList =
      ("[" ++ name ++ "]\n").toList ++ entries.flatMap lineOf := by
  have hsubtables := subtables_of_plain hplain
  have hheader : headerLine name false entries = ["[" ++ name ++ "]\n"] := by
    simp [headerLine, hname, hsubtables]
  rw [tableText, hheader, hsubtables, ← join_inlineLines hplain]
  simp [blocksText]

/-- A plain table is opened by its header and filled by its lines. -/
theorem passes_plainTable (hopens : Opens around path) (hnew : key ∉ table.map Prod.fst)
    (hnames : Names name (path ++ [key])) (hplain : PlainTable entries) (depth : Nat)
    (header : List String) (sectionNumber : Nat) :
    Passes ⟨around table, header, sectionNumber⟩ (tableText (depth + 1) name false entries).toList
      ⟨around (table ++ [(key, .table .declared (finished entries))]), path ++ [key],
        sectionNumber + 1⟩ := by
  have hdeclare := hopens.declare table [key] (by simp)
  rw [declare_new hnew] at hdeclare
  have honce : (([] : Draft).map Prod.fst ++ entries.map Prod.fst).Nodup := by
    simpa using hplain.once
  rw [tableText_plain hplain.plain hnames.ne_empty]
  refine (passes_header hnames hdeclare).append ?_
  exact passes_lines (Nat.zero_le _) (hopens.comp (opens_table hnew .declared)) honce
    fun entry hentry => (hplain.plain entry hentry).recovers 0 0

end

/-! ## Lists of tables -/

/-- A table of plain values with one more table after them. -/
structure Element where
  scalars : List (String × Datum)
  inner : String
  below : List (String × Datum)

namespace Element

def entries (element : Element) : List (String × Datum) :=
  element.scalars ++ [(element.inner, .table element.below)]

/-- The table under construction when all of it has been read. -/
def draft (element : Element) : Draft :=
  finished element.scalars ++ [(element.inner, .table .declared (finished element.below))]

structure IsPlain (element : Element) : Prop where
  scalars : PlainTable element.scalars
  below : PlainTable element.below
  new : element.inner ∉ element.scalars.map Prod.fst

end Element

section

variable {element : Element} {key : String} {front draft : Draft} {earlier : List Draft}

theorem subtables_element (hscalars : ∀ entry ∈ element.scalars, Plain entry.2) :
    subtables element.entries = [(element.inner, element.below, false)] := by
  rw [Element.entries, subtables, List.flatMap_append]
  change subtables element.scalars ++ _ = _
  rw [subtables_of_plain hscalars]
  rfl

theorem tableText_element (hscalars : ∀ entry ∈ element.scalars, Plain entry.2) {name : String}
    (hname : name ≠ "") (depth : Nat) :
    (tableText (depth + 2) name true element.entries).toList =
      ("[[" ++ name ++ "]]\n").toList ++ (element.scalars.flatMap lineOf ++ '\n' ::
        (tableText (depth + 1) (name ++ "." ++ writtenKey element.inner) false
          element.below).toList) := by
  have hlines : inlineLines element.entries = inlineLines element.scalars := by
    rw [Element.entries, inlineLines, List.filterMap_append]
    exact List.append_nil _
  rw [tableText, hlines, subtables_element hscalars, ← join_inlineLines hscalars]
  simp [headerLine, blocksText, nameBelow, hname]

/-- An element of a list is opened by its header, and the table in it by one of its own. -/
theorem passes_element (hplain : element.IsPlain) (hnew : key ∉ front.map Prod.fst)
    (hdeclare : draft.declareElement [key] = .ok (front ++ [(key, .tables earlier [])]))
    (depth : Nat) (header : List String) (sectionNumber : Nat) :
    Passes ⟨draft, header, sectionNumber⟩
      (tableText (depth + 2) (writtenKey key) true element.entries).toList
      ⟨front ++ [(key, .tables earlier element.draft)], [key, element.inner],
        sectionNumber + 2⟩ := by
  have hopens := opens_last hnew earlier
  have honce : (([] : Draft).map Prod.fst ++ element.scalars.map Prod.fst).Nodup := by
    simpa using hplain.scalars.once
  have hinner : element.inner ∉ (finished element.scalars).map Prod.fst := by
    rw [keys_finished]
    exact hplain.new
  have hlines : Passes ⟨front ++ [(key, .tables earlier [])], [key], sectionNumber + 1⟩
      (element.scalars.flatMap lineOf)
      ⟨front ++ [(key, .tables earlier (finished element.scalars))], [key], sectionNumber + 1⟩ :=
    passes_lines (Nat.zero_le _) hopens honce fun entry hentry =>
      (hplain.scalars.plain entry hentry).recovers 0 0
  rw [tableText_element hplain.scalars.plain (names_key key).ne_empty]
  refine (passes_elementHeader (names_key key) hdeclare).append
    (hlines.append (.append (passes_break _) ?_))
  exact passes_plainTable hopens hinner (names_below key element.inner) hplain.below depth _ _

theorem declareElement_first (hnew : key ∉ front.map Prod.fst) :
    front.declareElement [key] = .ok (front ++ [(key, .tables [] [])]) := by
  rw [Draft.declareElement, lookup_eq_none_of_not_mem hnew, Draft.put, mergeEntry_of_not_mem hnew]

theorem declareElement_next (hnew : key ∉ front.map Prod.fst) (earlier : List Draft) (last : Draft) :
    Draft.declareElement (front ++ [(key, .tables earlier last)]) [key] =
      .ok (front ++ [(key, .tables (earlier ++ [last]) [])]) := by
  rw [Draft.declareElement, lookup_last hnew]
  exact congrArg Except.ok (mergeEntry_last hnew _ _)

/-- The blocks of the elements of a list. -/
def elementTexts (depth : Nat) (key : String) (elements : List Element) : List String :=
  elements.map fun element => tableText (depth + 2) (writtenKey key) true element.entries

/-- The elements of a list are read one after the other. -/
theorem passes_moreElements (hnew : key ∉ front.map Prod.fst) {elements : List Element}
    (hplain : ∀ element ∈ elements, element.IsPlain) (last : Draft) (depth : Nat)
    (header : List String) (sectionNumber : Nat) :
    ∃ earlier' last' header' sectionNumber',
      earlier' ++ [last'] = earlier ++ [last] ++ elements.map Element.draft ∧
      Passes ⟨front ++ [(key, .tables earlier last)], header, sectionNumber⟩
        (spaced (elementTexts depth key elements))
        ⟨front ++ [(key, .tables earlier' last')], header', sectionNumber'⟩ := by
  induction elements generalizing earlier last header sectionNumber with
  | nil => exact ⟨earlier, last, header, sectionNumber, by simp, .nil _⟩
  | cons element elements ih =>
    have hfirst := passes_element (hplain element List.mem_cons_self) hnew
      (declareElement_next hnew earlier last) depth header sectionNumber
    obtain ⟨earlier', last', header', sectionNumber', hlist, hrest⟩ :=
      ih (fun other hother => hplain other (List.mem_cons_of_mem _ hother)) element.draft
        [key, element.inner] (sectionNumber + 2)
    refine ⟨earlier', last', header', sectionNumber', ?_, hfirst.block hrest⟩
    rw [hlist]
    simp

/-- A list under a new key is made by its first element. -/
theorem passes_elements (hnew : key ∉ front.map Prod.fst) {elements : List Element}
    (hsome : elements ≠ []) (hplain : ∀ element ∈ elements, element.IsPlain) (depth : Nat)
    (header : List String) (sectionNumber : Nat) :
    ∃ earlier last header' sectionNumber', earlier ++ [last] = elements.map Element.draft ∧
      Passes ⟨front, header, sectionNumber⟩ (spaced (elementTexts depth key elements))
        ⟨front ++ [(key, .tables earlier last)], header', sectionNumber'⟩ := by
  obtain ⟨element, elements, rfl⟩ := List.exists_cons_of_ne_nil hsome
  have hfirst := passes_element (hplain element List.mem_cons_self) hnew
    (declareElement_first hnew) depth header sectionNumber
  obtain ⟨earlier, last, header', sectionNumber', hlist, hrest⟩ := passes_moreElements hnew
    (fun other hother => hplain other (List.mem_cons_of_mem _ hother)) element.draft depth
    [key, element.inner] (sectionNumber + 2)
  exact ⟨earlier, last, header', sectionNumber', hlist, hfirst.block hrest⟩

end

/-! ## Documents -/

/-- Tables under their keys, as entries of a document. -/
def sections (tables : List (String × List (String × Datum))) : List (String × Datum) :=
  tables.map fun table => (table.1, .table table.2)

/-- The tables under construction when all of them have been read. -/
def sectionDrafts (tables : List (String × List (String × Datum))) : Draft :=
  tables.map fun table => (table.1, .table .declared (finished table.2))

/-- The blocks of tables that have headers. -/
def sectionTexts (depth : Nat) (tables : List (String × List (String × Datum))) : List String :=
  tables.map fun table => tableText (depth + 1) (writtenKey table.1) false table.2

section

variable {tables : List (String × List (String × Datum))} {front : Draft}

theorem passes_sections (honce : (front.map Prod.fst ++ tables.map Prod.fst).Nodup)
    (hplain : ∀ table ∈ tables, PlainTable table.2) (depth : Nat) (header : List String)
    (sectionNumber : Nat) :
    ∃ header' sectionNumber', Passes ⟨front, header, sectionNumber⟩
      (spaced (sectionTexts depth tables))
      ⟨front ++ sectionDrafts tables, header', sectionNumber'⟩ := by
  induction tables generalizing front header sectionNumber with
  | nil =>
    rw [sectionDrafts, List.map_nil, List.append_nil]
    exact ⟨header, sectionNumber, .nil _⟩
  | cons table tables ih =>
    obtain ⟨key, entries⟩ := table
    have hnew : key ∉ front.map Prod.fst := by
      intro hmem
      exact (List.nodup_append.mp honce).2.2 key hmem key (by simp) rfl
    have hkeys : ((front ++ [(key, Node.table .declared (finished entries))]).map Prod.fst ++
        tables.map Prod.fst).Nodup := by
      simpa using honce
    have hfirst := passes_plainTable opens_top hnew (names_key key)
      (hplain (key, entries) List.mem_cons_self) depth header sectionNumber
    obtain ⟨header', sectionNumber', hrest⟩ :=
      ih hkeys (fun other hother => hplain other (List.mem_cons_of_mem _ hother)) [key]
        (sectionNumber + 1)
    rw [List.append_assoc] at hrest
    exact ⟨header', sectionNumber', hfirst.block hrest⟩

end

end DeviceTags.Toml
