import DeviceTags.Cli.Answer
import DeviceTags.Cli.Toolkit
import DeviceTags.Config.Cache
import DeviceTags.ErrorLog
import DeviceTags.Settings

/-!
# Runs of the program

From the arguments, the environment and the files to what a run prints and its status. A failure that
a command expects is reported in one line; any other one also goes to the error log, and the place of
the log is told. A run itself fails only when that place is unknown.
-/

namespace DeviceTags.Cli

/-- What a run prints to its standard output. -/
inductive Output where
  | nothing
  | help
  | text (content : String)
  deriving DecidableEq, Repr

/-- What a run prints beside its output: log records, a failure, the place of the error log, or how
the program is used. -/
inductive Notice where
  | record (record : Record)
  | failure (failure : Failure)
  | details (log : Path)
  | usage

structure Execution where
  status : Nat
  output : Output
  notices : List Notice

def versionText : String := "blkcache 0.1.0"

/-- What the entries of the error log are about. -/
def crashContext : String := "blkcache CLI"

/-- The text of a notice, given what is seen of printed text, the time, and how the program is
used. -/
def Notice.text (shown : String → String) (clock usage : String) : Notice → String
  | .record entry => clock ++ " " ++ entry.text ++ "\n"
  | .failure cause => shown ("Error: " ++ cause.message) ++ "\n"
  | .details log => shown ("Details logged to " ++ log.text) ++ "\n"
  | .usage => usage

/-- The log records of a run, oldest first, if logging is verbose. -/
def recordNotices (logging : Logging) (memory : Memory) : List Notice :=
  (memory.log.reverse.filter logging.passes).map .record

def Reply.execution (shown : String → String) (reply : Reply) (notices : List Notice) :
    Execution where
  status := reply.status
  output := match reply.text with
    | none => .nothing
    | some text => .text (shown text ++ "\n")
  notices := notices

def reported (failure : Failure) (notices : List Notice) : Execution :=
  ⟨1, .nothing, notices ++ [.failure failure]⟩

/-- The failures that are expected while a cache is made from its configuration. -/
def isConfigFailure (failure : Failure) : Bool :=
  failure.kind.isA .system || failure.kind.isA .value || failure.kind.isA .runtime

section

variable {m : Type → Type} [Monad m]

/-- The end of a command by a failure that nothing expected, which goes to the error log. -/
def crashed (files : Files m) (environment : Environment) (clock : String) (failure : Failure)
    (notices : List Notice) : ExceptT Failure m Execution := do
  match environment.errorLog with
  | .error unknown => throw unknown
  | .ok log =>
    ExceptT.lift (LogEntry.append files log (.ofFailure clock crashContext failure))
    return ⟨1, .nothing, notices ++ [.failure failure, .details log]⟩

def existingPaths (files : Files m) : List DeviceSpec → m (List (Path × Except FileError Bool))
  | [] => pure []
  | spec :: rest => do
    let path := devicePath none spec.name
    let found ← files.contains path
    let more ← existingPaths files rest
    return (path, found) :: more

/-- A host that knows some paths and brings no collaborators along. -/
def hostKnowing (paths : List (Path × Except FileError Bool)) : Host where
  contains path :=
    match paths.find? fun entry => entry.1 = path with
    | some entry => entry.2
    | none => .ok false
  probe _ _ := pure ()
  verify _ _ d := pure d

/-- Runs a query against the cache of a configuration. -/
def askCache (kit : Toolkit) (files : Files m) (environment : Environment) (clock : String)
    (logging : Logging) (json : Bool) (query : Query) (host : Host) (config : Config) :
    ExceptT Failure m Execution := do
  match config.buildCache {} with
  | .error failure memory =>
    let notices := recordNotices logging memory
    if isConfigFailure failure then return reported failure notices
    else crashed files environment clock failure notices
  | .ok c memory =>
    match query.answer host json c memory with
    | .ok reply memory => return reply.execution kit.shown (recordNotices logging memory)
    | .error failure memory =>
      let notices := recordNotices logging memory
      if query.reportsFailures && failure.isOwn then return reported failure notices
      else crashed files environment clock failure notices

def runQuery (kit : Toolkit) (files : Files m) (environment : Environment) (clock : String)
    (logging : Logging) (settings : Settings) (query : Query) : ExceptT Failure m Execution := do
  match environment.commandDirectory settings.directory with
  | .error failure => crashed files environment clock failure []
  | .ok directory =>
    match ← ExceptT.lift (Config.loadOrCreate files kit.writer directory).run with
    | .error failure =>
      if isConfigFailure failure then return reported failure []
      else crashed files environment clock failure []
    | .ok config =>
      let paths ← ExceptT.lift (existingPaths files config.devices)
      askCache kit files environment clock logging settings.json query (hostKnowing paths) config

def runParse (kit : Toolkit) (logging : Logging) (json : Bool) (token : String) : Execution :=
  match parse json token {} with
  | .ok reply memory => reply.execution kit.shown (recordNotices logging memory)
  | .error failure memory => reported failure (recordNotices logging memory)

def loggingOf (environment : Environment) (settings : Settings) : Logging :=
  if environment.isVerbose || settings.verbose then Logging.initial.verbose else .initial

def run (kit : Toolkit) (files : Files m) (environment : Environment) (clock : String)
    (arguments : List String) : ExceptT Failure m Execution := do
  match kit.invocation arguments with
  | .help => return ⟨0, .help, []⟩
  | .version => return ⟨0, .text (versionText ++ "\n"), []⟩
  | .misuse => return ⟨2, .nothing, [.usage]⟩
  | .unusableDirectory directory =>
    crashed files environment clock (.file ⟨.nullCharacter, .ofString directory⟩) []
  | .command settings (.parse token) =>
    return runParse kit (loggingOf environment settings) settings.json token
  | .command settings (.ask query) =>
    runQuery kit files environment clock (loggingOf environment settings) settings query

end

end DeviceTags.Cli
