import DeviceTags.Cli.Execution
import DeviceTags.Clock
import Std.Time.DateTime.Timestamp

/-!
# The program

The command line over the file system and the environment of the machine. Everything that is decided
is decided by `Cli.run`; here files are read and written and texts are printed.
-/

namespace DeviceTags.Program

def systemError : IO.Error → Nat × String
  | .alreadyExists _ code details | .invalidArgument _ code details
  | .permissionDenied _ code details | .resourceExhausted _ code details
  | .inappropriateType _ code details | .noSuchThing _ code details
  | .interrupted _ code details | .noFileOrDirectory _ code details
  | .otherError code details | .resourceBusy code details | .resourceVanished code details
  | .unsupportedOperation code details | .hardwareFault code details
  | .unsatisfiedConstraints code details | .illegalOperation code details
  | .protocolError code details | .timeExpired code details => (code.toNat, details)
  | .unexpectedEof => (5, "Input/output error")
  | .userError details => (5, details)

def faultOf (error : IO.Error) : FileFault :=
  let known : List FileFault :=
    [.missing, .present, .notDirectory, .isDirectory, .nameTooLong, .tooManyLinks]
  let (code, details) := systemError error
  (known.find? (·.code = code)).getD (.other code details)

def attempt {α : Type} (path : Path) (action : IO α) : IO (Except FileError α) := do
  if path.names.any (·.toList.contains '\x00') then return .error ⟨.nullCharacter, path⟩
  try return .ok (← action)
  catch error => return .error ⟨faultOf error, path⟩

def contains (path : Path) : IO (Except FileError Bool) := do
  match ← attempt path (IO.FS.realPath path.text) with
  | .ok _ => return .ok true
  | .error error => return if error.fault.meansAbsent then .ok false else .error error

def isDirectory (path : Path) : IO Bool := do
  match ← attempt path (do (← IO.FS.realPath path.text).isDir) with
  | .ok found => return found
  | .error _ => return false

/-- Makes a directory unless it is there, and the directories above it, at most so many. -/
def makeDirectories (bound : Nat) (path : Path) : IO (Except FileError Unit) := do
  let made ← attempt path (IO.FS.createDir path.text)
  match made, bound with
  | .error ⟨.missing, _⟩, bound + 1 =>
    match ← makeDirectories bound path.parent with
    | .ok () => orPresent (← attempt path (IO.FS.createDir path.text))
    | failed => return failed
  | made, _ => orPresent made
where
  orPresent (made : Except FileError Unit) : IO (Except FileError Unit) := do
    match made with
    | .ok () => return .ok ()
    | .error error => return if ← isDirectory path then .ok () else .error error

/-- Appends to a file that only its owner may read when it has to be created. -/
def appendPrivate (path : Path) (content : ByteArray) : IO Unit := do
  let found ← contains path
  let file ← IO.FS.Handle.mk path.text .append
  match found with
  | .ok true => pure ()
  | _ => IO.setAccessRights path.text { user := { read := true, write := true } }
  file.write content
  file.flush

def files : Files IO where
  contains := contains
  read path := attempt path (IO.FS.readBinFile path.text)
  write path content := attempt path (IO.FS.writeBinFile path.text content)
  appendPrivate path content := attempt path (appendPrivate path content)
  makeDirectories path := makeDirectories path.names.length path

def homes : IO (List (String × String)) := do
  try
    let lines ← IO.FS.lines "/etc/passwd"
    return lines.toList.filterMap fun line =>
      match line.splitOn ":" with
      | user :: _ :: _ :: _ :: _ :: home :: _ => some (user, home)
      | _ => none
  catch _ => return []

def environment : IO Environment := do
  let known ← homes
  return {
    directory := ← IO.getEnv "BLKCACHE_CONFIG_DIR"
    verbose := ← IO.getEnv "BLKCACHE_VERBOSE"
    home := ← IO.getEnv "HOME"
    homeOf user := known.lookup user }

def now : IO DateTime := do
  let nanoseconds := (← Std.Time.Timestamp.now).toNanosecondsSinceUnixEpoch.val
  return .afterEpoch (nanoseconds.toNat / 1000)

def usage : String :=
  "Usage: blkcache [OPTIONS] COMMAND [ARGS]...\n\n" ++
  "  Query block device tags (TYPE, LABEL, UUID, ...).\n\n" ++
  "Options:\n" ++
  "  -v, --verbose     Enable debug-level logging to stderr\n" ++
  "  -j, --json        Output as JSON\n" ++
  "  --version         Show version and exit\n" ++
  "  -c, --config DIR  Path to the config directory\n" ++
  "  --help            Show this message and exit.\n\n" ++
  "Commands:\n" ++
  "  check  Probe the inventory and verify the tag index is consistent.\n" ++
  "  find   Print the device carrying a tag, preferring the highest priority.\n" ++
  "  list   List all devices and their tags.\n" ++
  "  parse  Parse a NAME=value tag string.\n" ++
  "  tags   Print every tag of a device.\n" ++
  "  value  Print the value of one tag on a device.\n"

def main (arguments : List String) : IO UInt32 := do
  let kit := Cli.Toolkit.standard
  let moment ← now
  match ← (Cli.run kit files (← environment) moment.stamp arguments).run with
  | .error failure =>
    IO.eprintln (failure.kind.qualifiedName ++ ": " ++ failure.message)
    return 1
  | .ok execution =>
    for notice in execution.notices do
      IO.eprint (notice.text kit.shown moment.wallClock usage)
    match execution.output with
    | .nothing => pure ()
    | .help => IO.print usage
    | .text content => IO.print content
    return execution.status.toUInt32

end DeviceTags.Program

def main (arguments : List String) : IO UInt32 :=
  DeviceTags.Program.main arguments
