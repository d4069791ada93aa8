import DeviceTags.FileTree

/-!
# Access to files

What the configuration and the error log need of a file system. A file tree as a value offers it, and
so does the file system of the machine, at the outer edge of the program.
-/

namespace DeviceTags

/-- The file operations of a file system; each of them can fail. -/
structure Files (m : Type → Type) where
  contains : Path → m (Except FileError Bool)
  read : Path → m (Except FileError ByteArray)
  write : Path → ByteArray → m (Except FileError Unit)
  appendPrivate : Path → ByteArray → m (Except FileError Unit)
  makeDirectories : Path → m (Except FileError Unit)

/-- Replaces the tree by the outcome of an operation on it; a failed operation leaves it alone. -/
def FileTree.become (outcome : FileTree → Except FileError FileTree) :
    StateM FileTree (Except FileError Unit) := fun tree =>
  match outcome tree with
  | .ok changed => (.ok (), changed)
  | .error error => (.error error, tree)

def FileTree.files : Files (StateM FileTree) where
  contains path := fun tree => (tree.contains path, tree)
  read path := fun tree => (tree.read path, tree)
  write path content := become (·.write path content)
  appendPrivate path content := become (·.appendPrivate path content)
  makeDirectories path := fun tree => tree.makeDirectories path

end DeviceTags
