import Mathlib
import DeviceTags.Config.Storage
import DeviceTags.Proofs.Config.Document

/-!
# Loading from a file tree

Over a file tree as a value, what an operation on files gives and the tree after it can be computed.
Loading a configuration only reads, and what is loaded is valid.
-/

namespace DeviceTags

namespace FileTree

variable {α β : Type}

/-- What an operation on files gives, and the tree after it. -/
def outcome (operation : ExceptT Failure (StateM FileTree) α) (tree : FileTree) :
    Except Failure α × FileTree :=
  operation.run.run tree

variable {operation : ExceptT Failure (StateM FileTree) α} {tree after : FileTree}
  {next : α → ExceptT Failure (StateM FileTree) β}

theorem outcome_bind (tree : FileTree) :
    outcome (operation >>= next) tree =
      match outcome operation tree with
      | (.ok value, after) => outcome (next value) after
      | (.error failure, after) => (.error failure, after) := by
  change ExceptT.bindCont next (operation tree).1 (operation tree).2 = match operation tree with
    | (.ok value, after) => next value after
    | (.error failure, after) => (.error failure, after)
  rcases operation tree with ⟨_ | _, _⟩ <;> rfl

theorem outcome_bind_of_ok {value : α} (hfirst : outcome operation tree = (.ok value, after)) :
    outcome (operation >>= next) tree = outcome (next value) after := by
  rw [outcome_bind, hfirst]

/-- An operation on files that reports its errors as values goes through. -/
theorem outcome_lift_bind {operation : StateM FileTree α} {value : α}
    (hrun : operation.run tree = (value, after)) :
    outcome (ExceptT.lift operation >>= next) tree = outcome (next value) after := by
  refine outcome_bind_of_ok ?_
  change (Functor.map Except.ok operation).run tree = _
  rw [StateT.run_map, hrun]
  rfl

theorem outcome_contains (path : Path) :
    outcome (Config.accessing (files.contains path)) tree =
      ((tree.contains path).mapError .file, tree) := rfl

theorem outcome_read (path : Path) :
    outcome (Config.accessing (files.read path)) tree =
      ((tree.read path).mapError .file, tree) := rfl

end FileTree

open FileTree

namespace Config

variable {tree : FileTree} {directory : Path} {config : Config}

/-- The configuration that the file in a directory gives. -/
def inFile (tree : FileTree) (directory : Path) : Except Failure Config :=
  match tree.contains (fileIn directory), tree.read (fileIn directory) with
  | .error error, _ | .ok true, .error error => .error (.file error)
  | .ok false, _ => .error (.configMissing (fileIn directory))
  | .ok true, .ok content => decode content >>= ofDocument directory

/-- Loading leaves the tree alone. -/
theorem outcome_load (tree : FileTree) (directory : Path) :
    outcome (load files directory) tree = (inFile tree directory, tree) := by
  unfold load inFile
  rw [outcome_bind, outcome_contains]
  cases tree.contains (fileIn directory) with
  | error error => rfl
  | ok found =>
    cases found with
    | false => rfl
    | true =>
      change outcome (_ >>= _) tree = _
      rw [outcome_bind, outcome_read]
      cases tree.read (fileIn directory) with
      | error error => rfl
      | ok content => rfl

/-- The file of the configuration in a directory holds a document. -/
structure Holds (tree : FileTree) (directory : Path) (document : Entries) : Prop where
  present : tree.contains (fileIn directory) = .ok true
  content : ∃ content, tree.read (fileIn directory) = .ok content ∧ decode content = .ok document

/-- Where the file holds a document, loading reads it. -/
theorem outcome_load_of_holds {document : Entries} (hholds : Holds tree directory document) :
    outcome (load files directory) tree = (ofDocument directory document, tree) := by
  obtain ⟨content, hread, hdecode⟩ := hholds.content
  rw [outcome_load, inFile, hholds.present, hread]
  dsimp only
  rw [hdecode]
  rfl

/-- A configuration that is loaded stands in a file as a document. -/
theorem exists_document_of_load (hload : outcome (load files directory) tree = (.ok config, tree)) :
    ∃ content document, tree.contains (fileIn directory) = .ok true ∧
      tree.read (fileIn directory) = .ok content ∧ decode content = .ok document ∧
      ofDocument directory document = .ok config := by
  rw [outcome_load, Prod.mk.injEq] at hload
  have hfile := hload.1
  unfold inFile at hfile
  split at hfile
  · cases hfile
  · cases hfile
  · cases hfile
  · next content hcontains hread =>
    obtain ⟨document, hdecode, hdocument⟩ := Except.bind_eq_ok_iff.mp hfile
    exact ⟨content, document, hcontains, hread, hdecode, hdocument⟩

theorem valid_of_load (hload : outcome (load files directory) tree = (.ok config, tree)) :
    config.Valid := by
  obtain ⟨_, _, _, _, _, hdocument⟩ := exists_document_of_load hload
  exact ofDocument_valid hdocument

/-- Where a configuration can be loaded, nothing is created. -/
theorem outcome_loadOrCreate (writer : Option Writer)
    (hload : outcome (load files directory) tree = (.ok config, tree)) :
    outcome (loadOrCreate files writer directory) tree = (.ok config, tree) := by
  obtain ⟨_, _, hcontains, _⟩ := exists_document_of_load hload
  unfold loadOrCreate
  rw [outcome_bind, outcome_contains, hcontains]
  exact hload

/-! ## A file in the root directory -/

/-- The tree that holds one file with the configuration, in its root directory. -/
def treeHolding (text : String) : FileTree := ⟨[([fileName], .file text.toUTF8 0o644)], []⟩

def rootDirectory : Path := ⟨.root, []⟩

theorem locate_treeHolding (text : String) :
    (treeHolding text).locate .target (fileIn rootDirectory) =
      .ok (.found [fileName] (.file text.toUTF8 0o644)) := by
  have hwalk : (treeHolding text).walk .target linkLimit [] [fileName] =
      .ok (.found [fileName] (.file text.toUTF8 0o644)) := by
    have hentry : (treeHolding text).entryAt ([] ++ [fileName]) =
        some (.file text.toUTF8 0o644) := rfl
    rw [walk, if_neg (by decide), if_neg (by decide), if_neg (by decide), if_neg (by decide +kernel),
      hentry]
    rfl
  have hpath : fileIn rootDirectory = ⟨.root, [fileName]⟩ := by decide +kernel
  rw [locate, hpath, if_neg (by decide +kernel), if_neg (by decide +kernel), if_neg (by decide)]
  dsimp only
  rw [hwalk]
  rfl

/-- The bytes of a text are read back as the text. -/
theorem fromUTF8?_toUTF8 (text : String) : String.fromUTF8? text.toUTF8 = some text :=
  dif_pos text.isValidUTF8

theorem holds_treeHolding {text : String} {document : Entries}
    (hread : Toml.read text = .ok document) :
    Holds (treeHolding text) rootDirectory document where
  present := by rw [FileTree.contains, locate_treeHolding]
  content := by
    refine ⟨text.toUTF8, by rw [FileTree.read, locate_treeHolding], ?_⟩
    rw [decode, fromUTF8?_toUTF8]
    dsimp only
    rw [hread]
    rfl

/-- The configuration that the file holds is the one that is loaded. -/
theorem load_treeHolding {text : String} {document : Entries} (hread : Toml.read text = .ok document)
    (hdocument : ofDocument rootDirectory document = .ok config) :
    outcome (load files rootDirectory) (treeHolding text) = (.ok config, treeHolding text) := by
  rw [outcome_load_of_holds (holds_treeHolding hread), hdocument]

/-- Two devices with the same label, and one of them declared once more with a priority. -/
def twinsText : String :=
  "[[device]]\nname='sda'\ntags.L='x'\n[[device]]\nname='sdb'\ntags.L='x'\n" ++
    "[[device]]\nname='sda'\npriority=-1\n"

def twinsDocument : Entries :=
  [("device", .array [.table [("name", .string "sda"), ("tags", .table [("L", .string "x")])],
    .table [("name", .string "sdb"), ("tags", .table [("L", .string "x")])],
    .table [("name", .string "sda"), ("priority", .integer (-1))]])]

def twins : Config where
  path := rootDirectory
  version := .integer 1
  probeOnMiss := true
  verifyPaths := false
  priorities := defaultPriorities
  devices := [⟨"sda", none, [("L", .string "x")]⟩, ⟨"sdb", none, [("L", .string "x")]⟩,
    ⟨"sda", some (.integer (-1)), []⟩]

theorem read_twinsText : Toml.read twinsText = .ok twinsDocument := by
  cbv

theorem load_twins :
    outcome (load files rootDirectory) (treeHolding twinsText) = (.ok twins, treeHolding twinsText) :=
  load_treeHolding read_twinsText rfl

end Config

end DeviceTags
