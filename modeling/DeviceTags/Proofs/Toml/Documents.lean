import DeviceTags.Proofs.Toml.Keys
import DeviceTags.Proofs.Toml.Tables

/-!
# Documents that were written

A document of plain tables, and perhaps one list of tables after them, has a text, and the text reads
as the document. Only the place of the list can change: a list whose elements fit on a line each is a
value, and values stand before the tables.
-/

namespace DeviceTags.Toml

/-- The parts of a document of tables, with a list of tables at the end unless it is empty. -/
structure Layout where
  tables : List (String × List (String × Datum))
  list : String
  elements : List Element

namespace Layout

def listItems (layout : Layout) : List Datum :=
  layout.elements.map fun element => .table element.entries

def entries (layout : Layout) : List (String × Datum) :=
  sections layout.tables ++
    if layout.elements = [] then [] else [(layout.list, .array layout.listItems)]

structure IsPlain (layout : Layout) : Prop where
  some : layout.tables ≠ []
  tables : ∀ table ∈ layout.tables, PlainTable table.2
  elements : ∀ element ∈ layout.elements, element.IsPlain
  once : (layout.tables.map Prod.fst ++ [layout.list]).Nodup

end Layout

/-! ## The text -/

section

variable (tables : List (String × List (String × Datum))) (entries : List (String × Datum))

theorem inlineLines_sections : inlineLines (sections tables ++ entries) = inlineLines entries := by
  have hnone : inlineLines (sections tables) = [] := by
    rw [inlineLines, sections, List.filterMap_map, List.filterMap_eq_nil_iff]
    exact fun _ _ => rfl
  rw [inlineLines, List.filterMap_append]
  change inlineLines (sections tables) ++ _ = _
  rw [hnone]
  rfl

theorem subtables_sections :
    subtables (sections tables ++ entries) =
      (tables.map fun table => (table.1, table.2, false)) ++ subtables entries := by
  have htables : subtables (sections tables) = tables.map fun table => (table.1, table.2, false) := by
    rw [subtables, sections, List.flatMap_map]
    exact List.map_eq_flatMap.symm
  rw [subtables, List.flatMap_append]
  change subtables (sections tables) ++ _ = _
  rw [htables]
  rfl

/-- The top of a document has no header. -/
theorem tableText_top (depth : Nat) :
    tableText (depth + 1) "" false entries =
      "\n".intercalate ((if inlineLines entries = [] then [] else [String.join (inlineLines entries)]) ++
        (subtables entries).map fun sub =>
          tableText depth (writtenKey sub.1) sub.2.2 sub.2.1) := by
  simp [tableText, headerLine, blocksText, nameBelow]

end

namespace Layout

variable {layout : Layout}

theorem tablesOf?_listItems (hsome : layout.elements ≠ []) :
    tablesOf? (.array layout.listItems) = some (layout.elements.map Element.entries) := by
  obtain ⟨element, elements, helements⟩ := List.exists_cons_of_ne_nil hsome
  rw [listItems, helements, List.map_cons]
  clear helements
  unfold tablesOf?
  dsimp only
  induction elements generalizing element with
  | nil => rfl
  | cons next elements ih =>
    rw [List.mapM_cons, List.map_cons, ih next]
    rfl

/-- Whether the list is one value. -/
def IsInline (layout : Layout) : Prop :=
  ∀ element ∈ layout.elements, fitsInline element.entries

theorem placement_inline (hsome : layout.elements ≠ []) (hinline : layout.IsInline) :
    placement (.array layout.listItems) = .inline := by
  have hall : (layout.elements.map Element.entries).all fitsInline := by
    rw [List.all_map, List.all_eq_true]
    exact hinline
  rw [placement, tablesOf?_listItems hsome]
  · exact if_pos hall
  · exact fun _ heq => nomatch heq

theorem placement_elements (hsome : layout.elements ≠ []) (hinline : ¬ layout.IsInline) :
    placement (.array layout.listItems) = .elements (layout.elements.map Element.entries) := by
  have hall : ¬ (layout.elements.map Element.entries).all fitsInline := by
    rw [List.all_map, List.all_eq_true]
    exact hinline
  rw [placement, tablesOf?_listItems hsome]
  · exact if_neg hall
  · exact fun _ heq => nomatch heq

/-- Without a list, the blocks are those of the tables. -/
theorem text_plain (hnone : layout.elements = []) (depth : Nat) :
    tableText (depth + 2) "" false layout.entries =
      "\n".intercalate (sectionTexts depth layout.tables) := by
  rw [tableText_top, entries, if_pos hnone, inlineLines_sections, subtables_sections]
  simp only [inlineLines, subtables, sectionTexts, List.filterMap_nil, List.flatMap_nil, if_true,
    List.append_nil, List.nil_append, List.map_map]
  rfl

/-- A list that is one value comes before the tables. -/
theorem text_inline (hsome : layout.elements ≠ []) (hinline : layout.IsInline) (depth : Nat) :
    tableText (depth + 2) "" false layout.entries =
      "\n".intercalate
        ((writtenKey layout.list ++ " = " ++ writtenValue 0 (.array layout.listItems) ++ "\n") ::
          sectionTexts depth layout.tables) := by
  have hplacement := placement_inline hsome hinline
  have hline : inlineLines [(layout.list, .array layout.listItems)] =
      [writtenKey layout.list ++ " = " ++ writtenValue 0 (.array layout.listItems) ++ "\n"] := by
    rw [inlineLines, List.filterMap_cons]
    dsimp only
    rw [hplacement]
    rfl
  have hsubtables : subtables [(layout.list, .array layout.listItems)] = [] := by
    simp [subtables, hplacement]
  rw [tableText_top, entries, if_neg hsome, inlineLines_sections, subtables_sections, hline,
    hsubtables, if_neg (List.cons_ne_nil _ _), List.append_nil, List.map_map, String.join_cons,
    String.join_nil, String.append_empty]
  rfl

/-- A list with a header for each element comes after the tables. -/
theorem text_elements (hsome : layout.elements ≠ []) (hinline : ¬ layout.IsInline) (depth : Nat) :
    tableText (depth + 3) "" false layout.entries =
      "\n".intercalate (sectionTexts (depth + 1) layout.tables ++
        elementTexts depth layout.list layout.elements) := by
  have hplacement := placement_elements hsome hinline
  have hlines : inlineLines [(layout.list, .array layout.listItems)] = [] := by
    simp [inlineLines, hplacement]
  have hsubtables : subtables [(layout.list, .array layout.listItems)] =
      layout.elements.map fun element => (layout.list, element.entries, true) := by
    simp [subtables, hplacement]
  rw [tableText_top, entries, if_neg hsome, inlineLines_sections, subtables_sections, hlines,
    hsubtables, if_pos rfl, List.nil_append, List.map_append, List.map_map, List.map_map]
  rfl

end Layout

/-! ## What is read -/

theorem finishEntries_append (front back : Draft) :
    finishEntries (front ++ back) = finishEntries front ++ finishEntries back := by
  induction front with
  | nil => rfl
  | cons entry front ih =>
    obtain ⟨key, node⟩ := entry
    rw [List.cons_append, finishEntries, ih, finishEntries, List.cons_append]

theorem finishEntries_element (element : Element) :
    finishEntries element.draft = element.entries := by
  rw [Element.draft, finishEntries_append, finishEntries_finished, finishEntries, Node.finish,
    finishEntries_finished]
  rfl

theorem finishEntries_sections (tables : List (String × List (String × Datum))) :
    finishEntries (sectionDrafts tables) = sections tables := by
  induction tables with
  | nil => rfl
  | cons table tables ih =>
    change (table.1, Node.finish (.table .declared (finished table.2))) ::
      finishEntries (sectionDrafts tables) = _
    rw [ih, Node.finish, finishEntries_finished]
    rfl

/-- An element is read back as a value. -/
theorem Element.IsPlain.recovers {element : Element} (hplain : element.IsPlain) (level : Nat) :
    Recovers level 6 (.table element.entries) := by
  have honce : (element.entries.map Prod.fst).Nodup := by
    rw [Element.entries, List.map_append, List.nodup_append]
    refine ⟨hplain.scalars.once, by simp, ?_⟩
    intro name hname last hlast
    rw [List.map_singleton, List.mem_singleton] at hlast
    rintro rfl
    subst hlast
    exact hplain.new hname
  refine recovers_table honce fun entry hentry => ?_
  rcases List.mem_append.mp hentry with hscalar | hinner
  · exact (hplain.scalars.plain entry hscalar).recovers 0 3
  · rw [List.mem_singleton.mp hinner]
    exact recovers_table hplain.below.once fun entry hentry =>
      (hplain.below.plain entry hentry).recovers 0 0

namespace Layout

variable {layout : Layout}

theorem sectionTexts_ne_nil (hplain : layout.IsPlain) (depth : Nat) :
    sectionTexts depth layout.tables ≠ [] := by
  simp [sectionTexts, hplain.some]

theorem read_plain (hplain : layout.IsPlain) (hnone : layout.elements = []) (depth : Nat) :
    Toml.read (tableText (depth + 2) "" false layout.entries) = .ok layout.entries := by
  have honce : (([] : Draft).map Prod.fst ++ layout.tables.map Prod.fst).Nodup :=
    (List.nodup_append.mp hplain.once).1
  obtain ⟨header, sectionNumber, hpasses⟩ := passes_sections honce hplain.tables depth [] 0
  rw [text_plain hnone, read_blocks (sectionTexts_ne_nil hplain depth) hpasses, List.nil_append,
    finishEntries_sections, entries, if_pos hnone, List.append_nil]

theorem read_inline (hplain : layout.IsPlain) (hsome : layout.elements ≠ [])
    (hinline : layout.IsInline) (depth : Nat) :
    Toml.read (tableText (depth + 2) "" false layout.entries) =
      .ok ((layout.list, .array layout.listItems) :: sections layout.tables) := by
  have hitems : ∀ item ∈ layout.listItems, Recovers 1 6 item := by
    intro item hitem
    obtain ⟨element, helement, rfl⟩ := List.mem_map.mp hitem
    exact (hplain.elements element helement).recovers 1
  have hvalue : Recovers 0 8 (.array layout.listItems) :=
    recovers_array (by simpa [listItems] using hsome) hitems
  have hassign : Draft.assign [] 0 (.array layout.listItems) [layout.list] =
      .ok [(layout.list, .value (.array layout.listItems))] := rfl
  have hline : Passes {} (lineOf (layout.list, .array layout.listItems))
      ⟨[(layout.list, .value (.array layout.listItems))], [], 0⟩ :=
    passes_assignment hvalue (by decide) hassign
  have honce : (([(layout.list, .value (.array layout.listItems))] : Draft).map Prod.fst ++
      layout.tables.map Prod.fst).Nodup := (List.perm_append_comm.nodup_iff).mp hplain.once
  obtain ⟨header, sectionNumber, hsections⟩ := passes_sections honce hplain.tables depth [] 0
  rw [← toList_line] at hline
  rw [text_inline hsome hinline, read_blocks (List.cons_ne_nil _ _) (hline.block hsections),
    finishEntries_append, finishEntries_sections]
  rfl

theorem read_elements (hplain : layout.IsPlain) (hsome : layout.elements ≠ [])
    (hinline : ¬ layout.IsInline) (depth : Nat) :
    Toml.read (tableText (depth + 3) "" false layout.entries) = .ok layout.entries := by
  have honce : (([] : Draft).map Prod.fst ++ layout.tables.map Prod.fst).Nodup :=
    (List.nodup_append.mp hplain.once).1
  have hnew : layout.list ∉ (sectionDrafts layout.tables).map Prod.fst := by
    intro hmem
    have hmem : layout.list ∈ layout.tables.map Prod.fst := by
      simpa [sectionDrafts] using hmem
    exact (List.nodup_append.mp hplain.once).2.2 _ hmem _ List.mem_cons_self rfl
  obtain ⟨header, sectionNumber, hsections⟩ := passes_sections honce hplain.tables (depth + 1) [] 0
  obtain ⟨earlier, last, header', sectionNumber', hlist, helements⟩ :=
    passes_elements hnew hsome hplain.elements depth header sectionNumber
  have htexts : sectionTexts (depth + 1) layout.tables ++
      elementTexts depth layout.list layout.elements ≠ [] := by
    simp [sectionTexts_ne_nil hplain]
  have hpasses := hsections.append helements
  rw [spaced, spaced, ← List.flatMap_append] at hpasses
  have hitems : finishTables earlier ++ [.table (finishEntries last)] = layout.listItems := by
    calc finishTables earlier ++ [.table (finishEntries last)]
      _ = (earlier ++ [last]).map fun draft => .table (finishEntries draft) := by
        rw [finishTables_eq, List.map_append, List.map_singleton]
      _ = layout.listItems := by
        rw [hlist, List.map_map]
        exact List.map_congr_left fun element _ =>
          congrArg Datum.table (finishEntries_element element)
  rw [text_elements hsome hinline, read_blocks htexts hpasses, entries, if_neg hsome]
  dsimp only
  rw [finishEntries_append, finishEntries_sections, finishEntries, finishEntries, Node.finish, hitems]

/-- What is read from the text of a document has the same entries. -/
theorem IsPlain.exists_read (hplain : layout.IsPlain) {depth : Nat} (htables : 2 ≤ depth)
    (hlist : layout.elements ≠ [] → 3 ≤ depth) :
    ∃ document, Toml.read (tableText depth "" false layout.entries) = .ok document ∧
      document.Perm layout.entries := by
  by_cases hsome : layout.elements = []
  · obtain ⟨depth, rfl⟩ : ∃ fewer, depth = fewer + 2 := ⟨depth - 2, by omega⟩
    exact ⟨_, read_plain hplain hsome depth, .rfl⟩
  · obtain ⟨depth, rfl⟩ : ∃ fewer, depth = fewer + 3 := ⟨depth - 3, by have := hlist hsome; omega⟩
    by_cases hinline : layout.IsInline
    · refine ⟨_, read_inline hplain hsome hinline (depth + 1), ?_⟩
      rw [entries, if_neg hsome]
      exact (List.perm_append_singleton _ _).symm
    · exact ⟨_, read_elements hplain hsome hinline depth, .rfl⟩

end Layout

/-! ## Nothing is in the way of writing -/

theorem obstacleInEntries?_none {entries : List (String × Datum)} {room : Nat} (hroom : 4 ≤ room)
    (hentries : ∀ entry ∈ entries, obstacle? (room - 4) entry.2 = none) :
    obstacleInEntries? room entries = none := by
  induction entries with
  | nil => rfl
  | cons entry rest ih =>
    obtain ⟨key, datum⟩ := entry
    rw [obstacleInEntries?, if_neg (by omega), hentries (key, datum) List.mem_cons_self,
      ih fun entry hentry => hentries entry (List.mem_cons_of_mem _ hentry)]
    rfl

theorem obstacleInItems?_none {items : List Datum} {room : Nat} (hroom : 4 ≤ room)
    (hitems : ∀ item ∈ items, obstacle? (room - 4) item = none) :
    obstacleInItems? room items = none := by
  induction items with
  | nil => rfl
  | cons item rest ih =>
    rw [obstacleInItems?, if_neg (by omega), hitems item List.mem_cons_self,
      ih fun item hitem => hitems item (List.mem_cons_of_mem _ hitem)]
    rfl

theorem obstacleInTrial?_none {tables : List (List (String × Datum))} {room : Nat}
    (htables : ∀ entries ∈ tables, obstacle? room (.table entries) = none) :
    obstacleInTrial? room tables = none := by
  induction tables with
  | nil => rfl
  | cons entries rest ih =>
    rw [obstacleInTrial?, htables entries List.mem_cons_self, Option.none_or]
    split
    · exact ih fun entries hentries => htables entries (List.mem_cons_of_mem _ hentries)
    · rfl

/-- A table can be written if its lists can be tried, its values can be written, and the tables below
it can. -/
theorem tableObstacle?_none {entries : List (String × Datum)} {room : Nat} (depth : Nat)
    (htrials : ∀ entry ∈ entries, (tablesOf? entry.2).bind (obstacleInTrial? (room - 2)) = none)
    (hlines : ∀ entry ∈ entries, placement entry.2 = .inline → obstacle? room entry.2 = none)
    (hbelow : ∀ sub ∈ subtables entries, ∀ depth, tableObstacle? depth room sub.2.1 = none) :
    tableObstacle? depth (room + 1) entries = none := by
  cases depth with
  | zero => rfl
  | succ depth =>
    rw [tableObstacle?, trialObstacle?, List.findSome?_eq_none_iff.mpr htrials,
      List.findSome?_eq_none_iff.mpr fun sub hsub => hbelow sub hsub depth, Option.none_or,
      Option.or_none, List.findSome?_eq_none_iff]
    intro entry hentry
    unfold lineObstacle?
    split
    · next hinline => exact hlines entry hentry hinline
    · rfl

theorem PlainTable.obstacle_none {entries : List (String × Datum)} (hplain : PlainTable entries)
    (depth room : Nat) : tableObstacle? depth (room + 1) entries = none := by
  refine tableObstacle?_none depth (fun entry hentry => ?_) (fun entry hentry _ => ?_) ?_
  · rw [(hplain.plain entry hentry).tablesOf?]
    rfl
  · exact (hplain.plain entry hentry).obstacle? room
  · rw [subtables_of_plain hplain.plain]
    simp

/-- On one line, a table takes four of the room. -/
theorem PlainTable.value_none {entries : List (String × Datum)} (hplain : PlainTable entries)
    {room : Nat} (hroom : 4 ≤ room) : obstacle? room (.table entries) = none := by
  rw [obstacle?]
  exact obstacleInEntries?_none hroom fun entry hentry => (hplain.plain entry hentry).obstacle? _

namespace Element.IsPlain

variable {element : Element} (hplain : element.IsPlain)

include hplain

theorem value_none {room : Nat} (hroom : 8 ≤ room) :
    obstacle? room (.table element.entries) = none := by
  rw [obstacle?]
  refine obstacleInEntries?_none (by omega) fun entry hentry => ?_
  rcases List.mem_append.mp hentry with hscalar | hinner
  · exact (hplain.scalars.plain entry hscalar).obstacle? _
  · rw [List.mem_singleton.mp hinner]
    exact hplain.below.value_none (by omega)

theorem obstacle_none (depth room : Nat) :
    tableObstacle? depth (room + 2) element.entries = none := by
  refine tableObstacle?_none depth (fun entry hentry => ?_) (fun entry hentry hinline => ?_) ?_
  · rcases List.mem_append.mp hentry with hscalar | hinner
    · rw [(hplain.scalars.plain entry hscalar).tablesOf?]
      rfl
    · rw [List.mem_singleton.mp hinner]
      rfl
  · rcases List.mem_append.mp hentry with hscalar | hinner
    · exact (hplain.scalars.plain entry hscalar).obstacle? _
    · rw [List.mem_singleton.mp hinner] at hinline
      cases hinline
  · rw [subtables_element hplain.scalars.plain]
    intro sub hsub depth
    rw [List.mem_singleton.mp hsub]
    exact hplain.below.obstacle_none depth room

end Element.IsPlain

namespace Layout

variable {layout : Layout}

theorem mem_entries {entry : String × Datum} (hentry : entry ∈ layout.entries) :
    (∃ table ∈ layout.tables, entry = (table.1, .table table.2)) ∨
      layout.elements ≠ [] ∧ entry = (layout.list, .array layout.listItems) := by
  rw [entries, List.mem_append, sections, List.mem_map] at hentry
  rcases hentry with ⟨table, htable, rfl⟩ | hlist
  · exact .inl ⟨table, htable, rfl⟩
  · split at hlist
    · cases hlist
    · next hsome => exact .inr ⟨hsome, List.mem_singleton.mp hlist⟩

theorem mem_subtables {sub : String × List (String × Datum) × Bool}
    (hsub : sub ∈ subtables layout.entries) :
    (∃ table ∈ layout.tables, sub.2.1 = table.2) ∨
      ∃ element ∈ layout.elements, sub.2.1 = element.entries := by
  rw [entries, subtables_sections, List.mem_append, List.mem_map] at hsub
  rcases hsub with ⟨table, htable, rfl⟩ | hlist
  · exact .inl ⟨table, htable, rfl⟩
  · split at hlist
    · cases hlist
    · next hsome =>
      rw [subtables, List.flatMap_singleton] at hlist
      by_cases hinline : layout.IsInline
      · rw [placement_inline hsome hinline] at hlist
        cases hlist
      · rw [placement_elements hsome hinline] at hlist
        obtain ⟨_, hentries, rfl⟩ := List.mem_map.mp hlist
        obtain ⟨element, helement, rfl⟩ := List.mem_map.mp hentries
        exact .inr ⟨element, helement, rfl⟩

theorem IsPlain.obstacle_none (hplain : layout.IsPlain) (depth : Nat) :
    tableObstacle? depth writingRoom layout.entries = none := by
  refine tableObstacle?_none depth (fun entry hentry => ?_) (fun entry hentry hinline => ?_)
    fun sub hsub depth => ?_
  · rcases mem_entries hentry with ⟨table, -, rfl⟩ | ⟨hsome, rfl⟩
    · rfl
    · dsimp only
      rw [tablesOf?_listItems hsome, Option.bind_some]
      refine obstacleInTrial?_none fun entries hentries => ?_
      obtain ⟨element, helement, rfl⟩ := List.mem_map.mp hentries
      exact (hplain.elements element helement).value_none (by decide)
  · rcases mem_entries hentry with ⟨table, -, rfl⟩ | ⟨hsome, rfl⟩
    · cases hinline
    · dsimp only
      rw [obstacle?]
      refine obstacleInItems?_none (by decide) fun item hitem => ?_
      obtain ⟨element, helement, rfl⟩ := List.mem_map.mp hitem
      exact (hplain.elements element helement).value_none (by decide)
  · rcases mem_subtables hsub with ⟨table, htable, hentries⟩ | ⟨element, helement, hentries⟩
    · rw [hentries]
      exact (hplain.tables table htable).obstacle_none depth _
    · rw [hentries]
      exact (hplain.elements element helement).obstacle_none depth _

theorem depth_le_entriesDepth {entries : List (String × Datum)} {entry : String × Datum}
    (hentry : entry ∈ entries) : entry.2.depth ≤ Datum.entriesDepth entries := by
  induction entries with
  | nil => cases hentry
  | cons first rest ih =>
    obtain ⟨key, datum⟩ := first
    rw [Datum.entriesDepth]
    rcases List.mem_cons.mp hentry with rfl | hmem
    · exact Nat.le_max_left _ _
    · exact (ih hmem).trans (Nat.le_max_right _ _)

/-- Such a document has a text, and what is read from it has the same entries. -/
theorem IsPlain.exists_text (hplain : layout.IsPlain) :
    ∃ text document, write layout.entries = ⟨text, none⟩ ∧ Toml.read text = .ok document ∧
      document.Perm layout.entries := by
  have htables : 2 ≤ Datum.entriesDepth layout.entries + 1 := by
    obtain ⟨table, tables, hsome⟩ := List.exists_cons_of_ne_nil hplain.some
    have hmem : (table.1, Datum.table table.2) ∈ layout.entries := by
      simp [entries, sections, hsome]
    have hdepth := depth_le_entriesDepth hmem
    rw [Datum.depth] at hdepth
    omega
  have hlist : layout.elements ≠ [] → 3 ≤ Datum.entriesDepth layout.entries + 1 := by
    intro hsome
    have hmem : (layout.list, Datum.array layout.listItems) ∈ layout.entries := by
      simp [entries, hsome]
    obtain ⟨element, elements, helements⟩ := List.exists_cons_of_ne_nil hsome
    have hdepth := depth_le_entriesDepth hmem
    rw [Datum.depth, listItems, helements, List.map_cons, Datum.itemsDepth, Datum.depth] at hdepth
    omega
  obtain ⟨document, hread, hperm⟩ := hplain.exists_read htables hlist
  refine ⟨_, document, ?_, hread, hperm⟩
  simp only [write, hplain.obstacle_none]
  rfl

end Layout

end DeviceTags.Toml
