import DeviceTags.Audit
import DeviceTags.Cli.Options
import DeviceTags.Description
import DeviceTags.Lookup

/-!
# Answers of commands

What each command prints and with which status it ends. A lookup that finds nothing prints nothing
and has a status of its own. The listing commands fill the cache first, unless that was done.
-/

namespace DeviceTags.Cli

/-- What a command prints, without the line break at its end, and its status. -/
structure Reply where
  status : Nat
  text : Option String
  deriving DecidableEq, Repr

def notFoundStatus : Nat := 2

def Reply.printing (text : String) : Reply := ⟨0, some text⟩

def Reply.notFound : Reply := ⟨notFoundStatus, none⟩

/-- Text or JSON, whichever is asked for. -/
def either (json : Bool) (text : String) (value : Json) : String :=
  if json then value.text else text

def parse (json : Bool) (token : String) : Op Reply := do
  let (name, value) ← Lookup.parseToken (some token)
  return .printing (either json (name ++ "\t" ++ value)
    (.object [("name", .string name), ("value", .string value)]))

/-- Fills the cache by its own prober, unless it has been probed. -/
def ensureProbed (host : Host) (c : CacheId) : Op Unit := do
  let cache ← Op.cache c
  match cache.prober with
  | none => pure ()
  | some prober => if cache.probed then pure () else prober.probe host c

/-- The name of the device that a token stands for. -/
def find (host : Host) (json : Bool) (c : CacheId) (token : String) (value : Option String) :
    Op Reply := do
  match ← Lookup.deviceName host (some c) (some token) value with
  | none => return .notFound
  | some name => return .printing (either json name (.object [("device", .string name)]))

def tags (host : Host) (json : Bool) (c : CacheId) (device : String) : Op Reply := do
  ensureProbed host c
  match ← Attachment.find c (some device) with
  | none => return .notFound
  | some d =>
    let pairs ← Op.look (·.pairs d)
    return .printing (either json (deviceLine device pairs)
      (.object [("device", .string device), ("tags", .array (pairs.map pairJson))]))

/-- The value of one tag of a device, which is printed bare in every case. -/
def value (host : Host) (c : CacheId) (name device : String) : Op Reply := do
  ensureProbed host c
  match ← Lookup.tagValue (some c) (.string name) (some device) with
  | none => return .notFound
  | some text => return .printing text

/-- All devices and their tags. JSON shows the priorities too, which may have too many digits. -/
def list (host : Host) (json : Bool) (c : CacheId) : Op Reply := do
  ensureProbed host c
  let devices := (← Op.cache c).devices
  let store ← Op.look id
  if json then
    if devices.all fun d => (store.device d).priority.isWritable then
      return .printing (Json.array (devices.map store.deviceJson)).indented
    else throw .integerUnwritable
  else if devices.isEmpty then return .printing "No devices."
  else return .printing ("\n".intercalate (devices.map store.deviceText))

def check (host : Host) (json : Bool) (c : CacheId) : Op Reply := do
  ensureProbed host c
  let problems ← Op.look fun store => Audit.problems store c
  let messages := problems.map Problem.message
  let cache ← Op.cache c
  let text :=
    if json then (Json.object [("ok", .boolean problems.isEmpty),
      ("problems", .array (messages.map .string))]).text
    else if problems.isEmpty then
      "OK: " ++ countText cache.devices.length ++ " devices, " ++
        countText cache.heads.length ++ " tag types"
    else "\n".intercalate messages
  return ⟨if problems.isEmpty then 0 else 1, some text⟩

def Query.answer (host : Host) (json : Bool) (c : CacheId) : Query → Op Reply
  | .find token given => Cli.find host json c token given
  | .tags device => Cli.tags host json c device
  | .value name device => Cli.value host c name device
  | .list => Cli.list host json c
  | .check => Cli.check host json c

/-- Whether a query reports this library's own failures itself. -/
def Query.reportsFailures : Query → Bool
  | .find _ _ | .value _ _ => true
  | .tags _ | .list | .check => false

end DeviceTags.Cli
