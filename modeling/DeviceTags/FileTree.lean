import DeviceTags.Entries
import DeviceTags.Path
import DeviceTags.Text.Quoted

/-!
# File trees

A tree of directories, files and symbolic links as a value, with the operations that the
configuration and the error log need, and the errors that a file system answers. Paths are followed
name by name: two dots leave the directory that was reached, and a link is followed from the
directory that holds it. At most forty links are followed, and a name has at most 255 bytes. A link
whose target ends with a slash leads to a directory, so no file is ever made through it.
-/

namespace DeviceTags

/-- What can be wrong with a path. -/
inductive FileFault where
  | missing
  | present
  | notDirectory
  | isDirectory
  | nameTooLong
  | tooManyLinks
  | nullCharacter
  | other (code : Nat) (description : String)
  deriving DecidableEq, Repr

structure FileError where
  fault : FileFault
  path : Path
  deriving DecidableEq, Repr

namespace FileFault

def code : FileFault → Nat
  | .missing => 2
  | .present => 17
  | .notDirectory => 20
  | .isDirectory => 21
  | .nameTooLong => 36
  | .tooManyLinks => 40
  | .nullCharacter => 22
  | .other code _ => code

def description : FileFault → String
  | .missing => "No such file or directory"
  | .present => "File exists"
  | .notDirectory => "Not a directory"
  | .isDirectory => "Is a directory"
  | .nameTooLong => "File name too long"
  | .tooManyLinks => "Too many levels of symbolic links"
  | .nullCharacter => "embedded null byte"
  | .other _ description => description

/-- Faults that mean that nothing is there, rather than that one cannot tell. -/
def meansAbsent : FileFault → Bool
  | .missing | .notDirectory | .tooManyLinks | .nullCharacter => true
  | _ => false

end FileFault

/-- The text of a failed operation. A path that no system call can be given has no number. -/
def FileError.message (error : FileError) : String :=
  if error.fault = .nullCharacter then error.fault.description
  else "[Errno " ++ String.ofList (Text.decimal error.fault.code) ++ "] " ++ error.fault.description ++
    ": " ++ Text.quoted error.path.text

inductive FileEntry where
  | directory
  | file (content : ByteArray) (mode : Nat)
  | link (target : String)

/-- Where a walk along a path ends: at an entry, or at a name that its directory does not hold. -/
inductive Place where
  | found (location : List String) (entry : FileEntry)
  | vacant (directory : List String) (name : String)

/-- What a path is followed for. A link at its end is followed unless the entry itself is wanted. -/
inductive Aim where
  /-- The entry that the path names. -/
  | entry
  /-- What the path leads to. -/
  | target
  /-- The file that the path leads to, which is made where there is none. -/
  | file
  deriving DecidableEq, Repr

/-- A tree as the entries below its root, each under the names that lead to it, and the directory
that relative paths start from. -/
structure FileTree where
  entries : List (List String × FileEntry)
  workingDirectory : List String

namespace FileTree

/-- The tree with nothing below its root. -/
def empty : FileTree := ⟨[], []⟩

/-- The longest name in bytes. -/
def longestName : Nat := 255

/-- Paths of this many bytes or more are refused. -/
def pathLimit : Nat := 4096

/-- How many links one walk follows. -/
def linkLimit : Nat := 40

def entryAt (tree : FileTree) (location : List String) : Option FileEntry :=
  if location = [] then some .directory else tree.entries.lookup location

def put (tree : FileTree) (location : List String) (entry : FileEntry) : FileTree :=
  { tree with entries := mergeEntry location entry tree.entries }

theorem entryAt_put (tree : FileTree) {location : List String} (hlocation : location ≠ [])
    (entry : FileEntry) (other : List String) :
    (tree.put location entry).entryAt other =
      if other = location then some entry else tree.entryAt other := by
  by_cases hother : other = []
  · subst hother
    simp [entryAt, Ne.symm hlocation]
  · simp [entryAt, hother, put, lookup_mergeEntry]

/-- The names of a link's target. A slash at its end is kept as an empty last name. -/
def targetNames (target : String) : List String :=
  let pieces := Path.pieces target.toList
  let names := (pieces.filter (· ≠ [])).map String.ofList
  if pieces.getLast? = some [] then names ++ [""] else names

/-- Walks on from a directory along the names that remain. An empty name and a dot stay in the
directory, so that the name before them has to be one. Where a file is to be made, a name with
nothing but a slash behind it is refused before it is looked up. -/
def walk (tree : FileTree) (aim : Aim) (links : Nat) (location names : List String) :
    Except FileFault Place :=
  match names with
  | [] => .ok (.found location .directory)
  | name :: rest =>
    if name = "" || name = "." then tree.walk aim links location rest
    else if name = ".." then tree.walk aim links location.dropLast rest
    else if aim = .file && rest = [""] then .error .isDirectory
    else if name.utf8ByteSize > longestName then .error .nameTooLong
    else
      match tree.entryAt (location ++ [name]) with
      | none => if rest.isEmpty then .ok (.vacant location name) else .error .missing
      | some .directory => tree.walk aim links (location ++ [name]) rest
      | some (.file content mode) =>
        if rest.isEmpty then .ok (.found (location ++ [name]) (.file content mode))
        else .error .notDirectory
      | some (.link target) =>
        if rest.isEmpty && aim = .entry then .ok (.found (location ++ [name]) (.link target))
        else
          match links with
          | 0 => .error .tooManyLinks
          | links + 1 =>
            let start := if Path.anchorOf target.toList = .here then location else []
            tree.walk aim links start (targetNames target ++ rest)
termination_by (links, names.length)

/-- Where a path leads. A null character is noticed before the length of the path. -/
def locate (tree : FileTree) (aim : Aim) (path : Path) : Except FileError Place :=
  let start := if path.anchor = .here then tree.workingDirectory else []
  let outcome :=
    if path.names.any (·.toList.contains '\x00') then .error .nullCharacter
    else if path.text.utf8ByteSize ≥ pathLimit then .error .nameTooLong
    else tree.walk aim linkLimit start path.names
  outcome.mapError fun fault => ⟨fault, path⟩

/-- Whether something is there. Not being able to tell is an error. -/
def contains (tree : FileTree) (path : Path) : Except FileError Bool :=
  match tree.locate .target path with
  | .ok (.found _ _) => .ok true
  | .ok (.vacant _ _) => .ok false
  | .error error => if error.fault.meansAbsent then .ok false else .error error

def isDirectory (tree : FileTree) (path : Path) : Bool :=
  match tree.locate .target path with
  | .ok (.found _ .directory) => true
  | _ => false

def read (tree : FileTree) (path : Path) : Except FileError ByteArray :=
  match tree.locate .target path with
  | .ok (.found _ (.file content _)) => .ok content
  | .ok (.found _ _) => .error ⟨.isDirectory, path⟩
  | .ok (.vacant _ _) => .error ⟨.missing, path⟩
  | .error error => .error error

/-- Changes the content of a file, or creates it with an access mode. -/
def change (tree : FileTree) (path : Path) (mode : Nat) (edit : ByteArray → ByteArray) :
    Except FileError FileTree :=
  match tree.locate .file path with
  | .ok (.found location (.file content mode)) =>
    .ok (tree.put location (.file (edit content) mode))
  | .ok (.found _ _) => .error ⟨.isDirectory, path⟩
  | .ok (.vacant directory name) =>
    .ok (tree.put (directory ++ [name]) (.file (edit .empty) mode))
  | .error error => .error error

/-- Writes a file anew. -/
def write (tree : FileTree) (path : Path) (content : ByteArray) : Except FileError FileTree :=
  tree.change path 0o644 fun _ => content

/-- Appends to a file that only its owner may read when it has to be created. -/
def appendPrivate (tree : FileTree) (path : Path) (content : ByteArray) :
    Except FileError FileTree :=
  tree.change path 0o600 (· ++ content)

/-- Makes one directory; whatever is there already, even a link to nothing, is in the way. -/
def makeDirectory (tree : FileTree) (path : Path) : Except FileError FileTree :=
  match tree.locate .entry path with
  | .ok (.vacant directory name) => .ok (tree.put (directory ++ [name]) .directory)
  | .ok (.found _ _) => .error ⟨.present, path⟩
  | .error error => .error error

/-- The outcome of making a directory where one may be already. -/
def orPresent (tree : FileTree) (path : Path) (made : Except FileError FileTree) :
    Except FileError Unit × FileTree :=
  match made with
  | .ok changed => (.ok (), changed)
  | .error error => (if tree.isDirectory path then .ok () else .error error, tree)

/-- Makes a directory unless it is there, and the directories above it as far as they are missing, at
most so many. Directories that were made stay when one below them cannot be made. -/
def makeDirectoriesUpTo (tree : FileTree) (bound : Nat) (path : Path) :
    Except FileError Unit × FileTree :=
  match tree.makeDirectory path, bound with
  | .error ⟨.missing, _⟩, bound + 1 =>
    match makeDirectoriesUpTo tree bound path.parent with
    | (.ok (), tree) => tree.orPresent path (tree.makeDirectory path)
    | failed => failed
  | made, _ => tree.orPresent path made

/-- Makes a directory unless it is there, and the directories above it. -/
def makeDirectories (tree : FileTree) (path : Path) : Except FileError Unit × FileTree :=
  tree.makeDirectoriesUpTo path.names.length path

/-- Removes a file or a link. -/
def remove (tree : FileTree) (path : Path) : Except FileError FileTree :=
  match tree.locate .entry path with
  | .ok (.found _ .directory) => .error ⟨.isDirectory, path⟩
  | .ok (.found location _) =>
    .ok { tree with entries := tree.entries.filter fun entry => entry.1 ≠ location }
  | .ok (.vacant _ _) => .error ⟨.missing, path⟩
  | .error error => .error error

end FileTree

end DeviceTags
