import DeviceTags.Text.Digits

/-!
# Log records

The records that operations write and what becomes of them: the levels of the loggers decide which
records pass, and the handler of the root logger prints them with the time. As long as no handler is
there, warnings and worse are printed bare.
-/

namespace DeviceTags

inductive Level where
  | debug
  | info
  | warning
  | error
  | critical
  deriving DecidableEq, Repr

namespace Level

/-- The rank of a level; higher is more severe. -/
def rank : Level → Nat
  | .debug => 10
  | .info => 20
  | .warning => 30
  | .error => 40
  | .critical => 50

def name : Level → String
  | .debug => "DEBUG"
  | .info => "INFO"
  | .warning => "WARNING"
  | .error => "ERROR"
  | .critical => "CRITICAL"

def ofName? (name : String) : Option Level :=
  [debug, info, warning, error, critical].find? (·.name = name)

end Level

/-- One record of the log. -/
structure Record where
  level : Level
  logger : String
  message : String
  deriving DecidableEq, Repr

/-- The name under which a logger is shown: the root logger, which has none, gets one. -/
def shownLogger (logger : String) : String :=
  if logger = "" then "root" else logger

/-- The text of a record without its time. -/
def Record.text (record : Record) : String :=
  record.level.name ++ " " ++ shownLogger record.logger ++ ": " ++ record.message

inductive Source where
  | cache
  | tag
  | resolve
  | probe
  deriving DecidableEq, Repr

def libraryLogger : String := "blkcache"

def Source.logger : Source → String
  | .cache => "blkcache.cache"
  | .tag => "blkcache.tag"
  | .resolve => "blkcache.resolve"
  | .probe => "blkcache.probe"

/-- The levels of the loggers and whether the root logger has a handler. Level zero leaves the
decision to the logger above. -/
structure Logging where
  rootLevel : Nat
  libraryLevel : Nat
  handlers : Nat
  deriving DecidableEq, Repr

namespace Logging

/-- Warnings and worse from everywhere, and no handler. -/
def initial : Logging := ⟨30, 30, 0⟩

/-- Keeps the library to warnings, or leaves its level to the root logger. -/
def quiet (logging : Logging) (on : Bool) : Logging :=
  { logging with libraryLevel := if on then 30 else 0 }

/-- Lets everything through, to a handler that is added once. -/
def verbose (logging : Logging) : Logging :=
  ⟨10, 10, max logging.handlers 1⟩

/-- The level that counts for the library. -/
def effectiveLevel (logging : Logging) : Nat :=
  if logging.libraryLevel = 0 then logging.rootLevel else logging.libraryLevel

def isLibraryLogger (logger : String) : Bool :=
  logger = libraryLogger || (libraryLogger ++ ".").toList.isPrefixOf logger.toList

def passes (logging : Logging) (record : Record) : Bool :=
  let level := if isLibraryLogger record.logger then logging.effectiveLevel else logging.rootLevel
  level ≤ record.level.rank

/-- What a record prints, given the text of the time. -/
def print (logging : Logging) (clock : String) (record : Record) : String :=
  if !logging.passes record then ""
  else if logging.handlers > 0 then clock ++ " " ++ record.text ++ "\n"
  else if Level.warning.rank ≤ record.level.rank then record.message ++ "\n"
  else ""

end Logging

end DeviceTags
