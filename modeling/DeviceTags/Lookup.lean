import DeviceTags.Collaborator
import DeviceTags.Token

/-!
# Lookups

Which device carries `NAME=value`. The candidate is the entry of the index with the highest priority,
the earliest of equals; a verifier confirms it or not. A lookup that finds nothing asks the prober
once to fill the cache, unless that was done before, and looks once more. Every call of a
collaborator is recorded beside the state that it acts on.
-/

namespace DeviceTags

/-- One step of the conversation with the collaborators: a prober starts or finishes, a verifier is
asked about the candidate or answers. -/
inductive Call where
  | probing
  | probed
  | asking (candidate : Option DeviceId)
  | answer (device : Option DeviceId)
  deriving DecidableEq, Repr

/-- An operation that records its conversation with collaborators, newest call first. -/
abbrev Dialogue := EStateM Failure (Memory × List Call)

namespace Dialogue

variable {α : Type}

/-- An operation without a conversation. -/
def ofOp (operation : Op α) : Dialogue α := fun state =>
  match operation state.1 with
  | .ok value memory => .ok value (memory, state.2)
  | .error failure memory => .error failure (memory, state.2)

def record (call : Call) : Dialogue Unit :=
  fun state => .ok () (state.1, call :: state.2)

/-- The operation without its record. -/
def toOp (dialogue : Dialogue α) : Op α := fun memory =>
  match dialogue (memory, []) with
  | .ok value state => .ok value state.1
  | .error failure state => .error failure state.1

end Dialogue

namespace Lookup

/-- How often a lookup looks: once, and once more after probing. -/
def maxAttempts : Nat := 2

/-- The entries of a head with a value, in order. -/
def entriesWith (store : Store) (h : HeadId) (value : String) : List TagId :=
  (store.head h).tags.filter fun t => (store.tag t).value = value

/-- The rank of an entry, which is that of the device that owns it. -/
def rankOf (store : Store) (t : TagId) : Except Failure Int :=
  match (store.tag t).device with
  | none => .error (.ownerless "priority")
  | some d => .ok (store.rank d)

/-- The better of two entries; the one found before wins ties. -/
def better (store : Store) (best : TagId) : List TagId → Except Failure TagId
  | [] => .ok best
  | t :: rest => do
    let rank ← rankOf store t
    let bestRank ← rankOf store best
    better store (if bestRank < rank then t else best) rest

/-- The entry of the highest rank among those that carry a name with a value, the earliest of
equals. -/
def bestMatch (store : Store) (c : CacheId) (name value : String) :
    Except Failure (Option TagId) :=
  match store.headOf? c name with
  | none => .ok none
  | some h =>
    match entriesWith store h value with
    | [] => .ok none
    | first :: rest => (better store first rest).map some

/-- The owner of the best entry, if there is an entry. -/
def candidate (c : CacheId) (name value : String) : Op (Option (Option DeviceId)) := do
  match ← Op.look fun store => bestMatch store c name value with
  | .error failure => throw failure
  | .ok none => return none
  | .ok (some t) => return some (← Op.tag t).device

def nameOf : Option DeviceId → Op String
  | none => throw (.ownerless "name")
  | some d => return (← Op.device d).name

/-- `NAME=value` as the log shows it. -/
def pairText (name value : String) : String := name ++ "=" ++ value

/-- One look into the index: the candidate, if the verifier confirms it and it still carries the
tag. The verifier may answer with another device. -/
def attempt (host : Host) (c : CacheId) (name value : String) (verifier : Verifier) :
    Dialogue (Option DeviceId) := do
  match ← Dialogue.ofOp (candidate c name value) with
  | none => return none
  | some owner =>
    Dialogue.record (.asking owner)
    let answer ← Dialogue.ofOp (verifier.verify host c owner)
    Dialogue.record (.answer answer)
    Dialogue.ofOp do
      match answer with
      | none =>
        Op.log .debug .resolve ("Candidate " ++ (← nameOf owner) ++ " failed verification")
        return none
      | some d =>
        let deviceName := (← Op.device d).name
        if ← Op.look (·.hasPair d name value) then
          Op.log .debug .resolve ("Found " ++ pairText name value ++ " on " ++ deviceName)
          return some d
        else
          Op.log .debug .resolve
            ("Device " ++ deviceName ++ " no longer has " ++ pairText name value)
          return none

/-- Looks at most so many times, and lets the prober fill the cache in between. -/
def search (host : Host) (c : CacheId) (name value : String) (prober : Option Prober)
    (verifier : Verifier) : Nat → Dialogue (Option DeviceId)
  | 0 => pure none
  | further + 1 => do
    match ← attempt host c name value verifier with
    | some d => return some d
    | none =>
      match prober with
      | none => return none
      | some prober =>
        if (← Dialogue.ofOp (Op.cache c)).probed || further = 0 then return none
        else
          Dialogue.ofOp <| Op.log .debug .resolve
            ("No match for " ++ pairText name value ++ ", probing all devices")
          Dialogue.record .probing
          Dialogue.ofOp (prober.probe host c)
          Dialogue.record .probed
          search host c name value (some prober) verifier further

/-- A lookup in a cache. A given collaborator stands in for that of the cache; without any verifier,
every candidate is trusted. -/
def dialogue (host : Host) (c : CacheId) (name value : String) (prober : Option Prober)
    (verifier : Option Verifier) : Dialogue (Option DeviceId) := do
  let cache ← Dialogue.ofOp (Op.cache c)
  Dialogue.ofOp <| Op.log .debug .resolve ("Looking for " ++ pairText name value ++ " in cache")
  search host c name value (prober <|> cache.prober) ((verifier <|> cache.verifier).getD .trusting)
    maxAttempts

/-- The cache, the name and the value that a lookup must be given. The value may be empty. -/
def requireArguments (c : Option CacheId) (name value : Option String) :
    Except Failure (CacheId × String × String) :=
  match c, name, value with
  | none, _, _ => .error .cacheRequired
  | some _, none, _ | some _, some "", _ => .error .tagTypeRequired
  | some _, some _, none => .error .tagValueRequired
  | some c, some name, some value => .ok (c, name, value)

def find (host : Host) (c : Option CacheId) (name value : Option String)
    (prober : Option Prober) (verifier : Option Verifier) : Op (Option DeviceId) := do
  let (c, name, value) ← Tagging.checked (requireArguments c name value)
  (dialogue host c name value prober verifier).toOp

/-- The owners of entries, each once, in the order in which they are first met. -/
def distinctOwners (store : Store) (entries : List TagId) : List (Option DeviceId) :=
  entries.foldl
    (fun found t =>
      let owner := (store.tag t).device
      if found.contains owner then found else found ++ [owner])
    []

/-- The devices that the index lists for a name with a value: those of higher rank first, those of
equal rank in the order of the index. -/
def listing (store : Store) (c : CacheId) (name value : String) :
    Except Failure (List DeviceId) :=
  match store.headOf? c name with
  | none => .ok []
  | some h =>
    match (distinctOwners store (entriesWith store h value)).mapM id with
    | none => .error (.ownerless "priority")
    | some devices => .ok (devices.mergeSort fun d e => store.rank e ≤ store.rank d)

/-- Every device that carries a name with a value, without probing and verifying. -/
def all (c : Option CacheId) (name value : Option String) : Op (List DeviceId) := do
  let (c, name, value) ← Tagging.checked (requireArguments c name value)
  Tagging.checked (← Op.look fun store => listing store c name value)

/-- Reads a token, with a record of the attempt. -/
def parseToken (token : Option String) : Op (String × String) := do
  let shown := match token with
    | none => Datum.none.literal
    | some text => Text.quoted text
  Op.log .debug .tag ("Trying to parse " ++ shown ++ " as a tag")
  Tagging.checked (Token.parse token)

/-- The name of the device that a token stands for: with a value, the token is the name of a tag;
otherwise it is `NAME=value`, or else a device name, which stands for itself. -/
def deviceName (host : Host) (c : Option CacheId) (token value : Option String) :
    Op (Option String) := do
  let some c := c | throw .cacheRequired
  match token with
  | none | some "" => throw .tokenRequired
  | some token =>
    let found ← match value with
      | some value => find host (some c) (some token) (some value) none none
      | none =>
        if token.toList.contains '=' then
          let (name, value) ← parseToken (some token)
          find host (some c) (some name) (some value) none none
        else return some token
    match found with
    | none => return none
    | some d => return some (← Op.device d).name

/-- The value of the first tag of a name on the device of a name. -/
def tagValue (c : Option CacheId) (name : Datum) (device : Option String) : Op (Option String) := do
  let some c := c | throw .cacheRequired
  match ← Attachment.find c device with
  | none => return none
  | some d =>
    match ← Tagging.find (some d) name with
    | none => return none
    | some t => return some (← Op.tag t).value

end Lookup

end DeviceTags
