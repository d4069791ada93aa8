import DeviceTags.Failure
import DeviceTags.Files

/-!
# The error log

A file to which failures are appended, each under a line of equals signs and the time at which it was
written. Not being able to write it is no failure.
-/

namespace DeviceTags

structure LogEntry where
  clock : String
  context : String
  kind : Kind
  message : String

namespace LogEntry

/-- The message as the log shows it: the message of a missing key is quoted. -/
def shownMessage (entry : LogEntry) : String :=
  if entry.kind = .key then Text.quoted entry.message else entry.message

/-- The line with the kind and the message, if there is one. -/
def cause (entry : LogEntry) : String :=
  if entry.shownMessage = "" then entry.kind.qualifiedName
  else entry.kind.qualifiedName ++ ": " ++ entry.shownMessage

def text (entry : LogEntry) : String :=
  "\n" ++ String.ofList (List.replicate 60 '=') ++ "\n[" ++ entry.clock ++ "]" ++
    (if entry.context = "" then "" else " " ++ entry.context) ++ "\n" ++ entry.cause ++ "\n"

def ofFailure (clock context : String) (failure : Failure) : LogEntry :=
  ⟨clock, context, failure.kind, failure.message⟩

/-- Appends an entry to a file that only its owner may read. -/
def append {m : Type → Type} [Monad m] (files : Files m) (file : Path) (entry : LogEntry) :
    m Unit := do
  match ← files.makeDirectories file.parent with
  | .error _ => pure ()
  | .ok () => discard (files.appendPrivate file entry.text.toUTF8)

end LogEntry

end DeviceTags
