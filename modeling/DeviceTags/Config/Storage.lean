import DeviceTags.Config.Document
import DeviceTags.Files
import DeviceTags.Toml.Reader
import DeviceTags.Toml.Writer

/-!
# Configurations in files

Loading and saving a configuration in its directory. A missing file is an error of its own for
loading; a program that starts without one saves the standard configuration. What turns a document
into text is a parameter of saving. If it stops on its way, the file holds what it wrote by then.
-/

namespace DeviceTags.Config

variable {m : Type → Type} [Monad m]

/-- The failure that a refused document means. -/
def ofFault : Toml.Fault → Failure
  | .malformed => .configMalformed
  | .integerTooLong digits => .integerTooLong digits
  | .tooDeep => .nestedTooDeep

/-- The document in the content of a file, which is text in UTF-8. -/
def decode (content : ByteArray) : Except Failure Entries :=
  match String.fromUTF8? content with
  | none => .error .configNotText
  | some text => (Toml.read text).mapError ofFault

def accessing {α : Type} (access : m (Except FileError α)) : ExceptT Failure m α :=
  ExceptT.mk (return (← access).mapError Failure.file)

def load (files : Files m) (directory : Path) : ExceptT Failure m Config := do
  let file := fileIn directory
  if ← accessing (files.contains file) then
    let content ← accessing (files.read file)
    ExceptT.mk (pure (decode content >>= ofDocument directory))
  else throw (.configMissing file)

/-- What a writer made of a document: the text as far as it came, and why it stopped if it did. -/
structure Written where
  text : String
  failure : Option Failure := none

/-- Something that writes documents. -/
abbrev Writer := Entries → Written

/-- The failure that an obstacle to writing means. -/
def ofObstacle : Toml.Obstacle → Failure
  | .valueMissing => .valueMissing
  | .integerTooLong => .integerUnwritable
  | .nestedTooDeep => .nestedTooDeep

/-- The writer of TOML. -/
def Writer.toml : Writer := fun document =>
  let written := Toml.write document
  ⟨written.text, written.obstacle.map ofObstacle⟩

/-- Saves a configuration in its directory, which is made if it is missing. -/
def save (files : Files m) (writer : Option Writer) (config : Config) : ExceptT Failure m Unit := do
  match writer with
  | none => throw .writerMissing
  | some write =>
    accessing (files.makeDirectories config.path)
    let written := write config.toDocument
    accessing (files.write (fileIn config.path) written.text.toUTF8)
    match written.failure with
    | none => return ()
    | some failure => throw failure

/-- Loads the configuration of a directory, or saves the standard one there if there is none. -/
def loadOrCreate (files : Files m) (writer : Option Writer) (directory : Path) :
    ExceptT Failure m Config := do
  if ← accessing (files.contains (fileIn directory)) then load files directory
  else
    let config := standard directory
    save files writer config
    return config

end DeviceTags.Config
