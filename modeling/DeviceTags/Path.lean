/-!
# Paths

Paths in normal form: the slashes at the front kept as one or as exactly two, the names in between
without empty ones and single dots. Two dots stay, since the directory they leave may be a link.
-/

namespace DeviceTags

/-- How a path starts: at the working directory, at the root, or at the root spelled with exactly two
slashes, which stays distinct. -/
inductive Anchor where
  | here
  | root
  | doubleRoot
  deriving DecidableEq, Repr

/-- A path as an anchor and the names below it. -/
structure Path where
  anchor : Anchor
  names : List String
  deriving DecidableEq, Repr

namespace Path

/-- The pieces of a text between slashes. -/
def pieces : List Char → List (List Char)
  | [] => [[]]
  | c :: rest =>
    if c = '/' then [] :: pieces rest
    else
      match pieces rest with
      | [] => [[c]]
      | piece :: more => (c :: piece) :: more

/-- Whether a piece counts as a name of the path. -/
def isName (piece : List Char) : Bool :=
  piece ≠ [] && piece ≠ ['.']

/-- The names in a text, whatever its anchor. -/
def namesIn (text : List Char) : List String :=
  ((pieces text).filter isName).map String.ofList

def anchorOf : List Char → Anchor
  | '/' :: '/' :: '/' :: _ => .root
  | '/' :: '/' :: _ => .doubleRoot
  | '/' :: _ => .root
  | _ => .here

def ofString (text : String) : Path :=
  ⟨anchorOf text.toList, namesIn text.toList⟩

def anchorText : Anchor → String
  | .here => ""
  | .root => "/"
  | .doubleRoot => "//"

/-- The text of a path; an empty relative path is a dot. -/
def text (path : Path) : String :=
  match path.anchor, path.names with
  | .here, [] => "."
  | anchor, names => anchorText anchor ++ "/".intercalate names

/-- A path below a directory; an absolute one replaces it. -/
def join (directory path : Path) : Path :=
  match path.anchor with
  | .here => ⟨directory.anchor, directory.names ++ path.names⟩
  | _ => path

def child (directory : Path) (name : String) : Path :=
  directory.join (ofString name)

/-- The directory that holds the path; an anchor alone holds itself. -/
def parent (path : Path) : Path :=
  ⟨path.anchor, path.names.dropLast⟩

/-- The path with a leading tilde replaced by a home directory. The tilde may carry a user's name;
none is returned when no home is known. -/
def expandHome (home : String → Option String) (path : Path) : Option Path :=
  match path.anchor, path.names with
  | .here, first :: rest =>
    match first.toList with
    | '~' :: user =>
      match home (String.ofList user) with
      | some directory =>
        if directory.toList.head? = some '~' then none
        else
          let base := ofString directory
          some ⟨base.anchor, base.names ++ rest⟩
      | none => none
    | _ => some path
  | _, _ => some path

theorem pieces_ne_nil (text : List Char) : pieces text ≠ [] := by
  cases text with
  | nil => simp [pieces]
  | cons c rest =>
    rw [pieces]
    split
    · simp
    · split <;> simp

/-- The pieces with a slash between each two of them are the text. -/
theorem intercalate_pieces (text : List Char) : ['/'].intercalate (pieces text) = text := by
  induction text with
  | nil => simp [pieces]
  | cons c rest ih =>
    rw [pieces]
    split
    · next hc =>
      obtain ⟨piece, more, hpieces⟩ := List.exists_cons_of_ne_nil (pieces_ne_nil rest)
      rw [hpieces] at ih ⊢
      rw [List.intercalate_cons_cons, ih, hc]
      simp
    · split
      · next hnil => exact absurd hnil (pieces_ne_nil rest)
      · next piece more hpieces =>
        rw [hpieces] at ih
        rw [← ih]
        cases more <;> simp

theorem slash_not_mem_pieces {text piece : List Char} (hpiece : piece ∈ pieces text) :
    '/' ∉ piece := by
  induction text generalizing piece with
  | nil => simp_all [pieces]
  | cons c rest ih =>
    rw [pieces] at hpiece
    split at hpiece
    · rcases List.mem_cons.1 hpiece with rfl | hrest
      · simp
      · exact ih hrest
    · next hc =>
      split at hpiece
      · next hnil => exact absurd hnil (pieces_ne_nil rest)
      · next first more hpieces =>
        rcases List.mem_cons.1 hpiece with rfl | hrest
        · have hfirst := ih (hpieces ▸ List.mem_cons_self)
          simp only [List.mem_cons, not_or]
          exact ⟨fun heq => hc heq.symm, hfirst⟩
        · exact ih (hpieces ▸ List.mem_cons_of_mem _ hrest)

theorem join_here (directory : Path) (names : List String) :
    directory.join ⟨.here, names⟩ = ⟨directory.anchor, directory.names ++ names⟩ := by
  rfl

end Path

end DeviceTags
