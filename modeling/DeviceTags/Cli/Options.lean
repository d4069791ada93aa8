import DeviceTags.Text.Alphanumeric
import DeviceTags.Token

/-!
# Command lines

What a list of arguments asks for. Options come first and may be clustered; the option for the
directory takes the rest of its argument or the next argument as its value. Two dashes end the
options. After the name of a command only its operands and `--help` follow, in any order. A directory
that is looked up before the command runs may be one that no system call can be given.
-/

namespace DeviceTags.Cli

inductive Setting where
  | verbose
  | json
  | version
  | help
  | directory (path : String)
  deriving DecidableEq, Repr

/-- What one of the tags of a cache or all of them are asked for. -/
inductive Query where
  | find (token : String) (value : Option String)
  | tags (device : String)
  | value (name device : String)
  | list
  | check
  deriving DecidableEq, Repr

/-- What a run does: reading a token, or asking a cache. -/
inductive Command where
  | parse (token : String)
  | ask (query : Query)
  deriving DecidableEq, Repr

structure Settings where
  verbose : Bool
  json : Bool
  directory : Option String
  deriving DecidableEq, Repr

inductive Invocation where
  | help
  | version
  | misuse
  | unusableDirectory (path : String)
  | command (settings : Settings) (command : Command)
  deriving DecidableEq, Repr

/-- What one argument before the command is. Options that an argument gives may be followed by the
option for the directory without its value. -/
inductive Reading where
  | operand
  | terminator
  | invalid
  | settings (found : List Setting)
  | awaitsDirectory (found : List Setting)
  deriving DecidableEq, Repr

/-- The options of an argument that starts with two dashes. Those that install or show completions for
a shell (`--install-completion`, `--show-completion`) concern the shell and not this program, and are
read as misuse. -/
def readLong (name : String) : Reading :=
  match name with
  | "verbose" => .settings [.verbose]
  | "json" => .settings [.json]
  | "version" => .settings [.version]
  | "help" => .settings [.help]
  | "config" => .awaitsDirectory []
  | _ =>
    match Token.cutAt '=' name.toList with
    | some (option, path) =>
      if String.ofList option = "config" then .settings [.directory (String.ofList path)]
      else .invalid
    | none => .invalid

/-- The options of the letters after one dash, behind those found before. -/
def readCluster (found : List Setting) : List Char → Reading
  | [] => .settings found
  | 'v' :: rest => readCluster (found ++ [.verbose]) rest
  | 'j' :: rest => readCluster (found ++ [.json]) rest
  | ['c'] => .awaitsDirectory found
  | 'c' :: value => .settings (found ++ [.directory (String.ofList value)])
  | _ :: _ => .invalid

def readArgument (argument : String) : Reading :=
  match argument.toList with
  | ['-', '-'] => .terminator
  | '-' :: '-' :: name => readLong (String.ofList name)
  | '-' :: c :: rest => readCluster [] (c :: rest)
  | _ => .operand

/-- The options at the front of the arguments, and the arguments after them. -/
def readSettings : List String → Option (List Setting × List String)
  | [] => some ([], [])
  | argument :: rest =>
    match readArgument argument, rest with
    | .operand, rest => some ([], argument :: rest)
    | .terminator, rest => some ([], rest)
    | .invalid, _ => none
    | .settings found, rest => (readSettings rest).map fun more => (found ++ more.1, more.2)
    | .awaitsDirectory _, [] => none
    | .awaitsDirectory found, value :: rest =>
      (readSettings rest).map fun more => (found ++ .directory value :: more.1, more.2)

/-- The operands after the name of a command, and whether help is asked for among them. -/
def readOperands : List String → Option (Bool × List String)
  | [] => some (false, [])
  | argument :: rest =>
    match argument.toList with
    | ['-', '-'] => some (false, rest)
    | '-' :: _ :: _ =>
      if argument = "--help" then (readOperands rest).map fun more => (true, more.2) else none
    | _ => (readOperands rest).map fun more => (more.1, argument :: more.2)

def commandNames : List String := ["parse", "find", "tags", "value", "list", "check"]

/-- The command of a name with its operands, if their number is right. -/
def commandOf (name : String) (operands : List String) : Option Command :=
  match name, operands with
  | "parse", [token] => some (.parse token)
  | "find", [token] => some (.ask (.find token none))
  | "find", [token, value] => some (.ask (.find token (some value)))
  | "tags", [device] => some (.ask (.tags device))
  | "value", [tag, device] => some (.ask (.value tag device))
  | "list", [] => some (.ask .list)
  | "check", [] => some (.ask .check)
  | _, _ => none

/-- The options that hold together; the last directory counts. -/
def Settings.ofList (found : List Setting) : Settings where
  verbose := found.contains .verbose
  json := found.contains .json
  directory := (found.filterMap fun setting => match setting with
    | .directory path => some path
    | _ => none).getLast?

/-- Whether a directory cannot be looked up, for the null character in its path. -/
def isUnusable (path : String) : Bool :=
  path.toList.contains '\x00'

/-- The first of the options that end a run at once. The option for the directory does so when the
directory that counts is unusable. -/
def ending? (directory : Option String) : List Setting → Option Invocation
  | [] => none
  | .help :: _ => some .help
  | .version :: _ => some .version
  | .directory _ :: rest =>
    match directory.filter isUnusable with
    | some path => some (.unusableDirectory path)
    | none => ending? directory rest
  | _ :: rest => ending? directory rest

/-- What a name that is no command asks for: one that starts like an option shows the help. -/
def unknownCommand (name : String) : Invocation :=
  match name.toList with
  | [] => .misuse
  | c :: _ => if Text.isAlphanumeric c then .misuse else .help

def readCommand (settings : Settings) : List String → Invocation
  | [] => .misuse
  | name :: arguments =>
    if commandNames.contains name then
      match readOperands arguments with
      | none => .misuse
      | some (true, _) => .help
      | some (false, operands) =>
        match commandOf name operands with
        | some command => .command settings command
        | none => .misuse
    else unknownCommand name

def Invocation.ofArguments (arguments : List String) : Invocation :=
  if arguments.isEmpty then .help
  else
    match readSettings arguments with
    | none => .misuse
    | some (found, rest) =>
      let settings := Settings.ofList found
      (ending? settings.directory found).getD (readCommand settings rest)

end DeviceTags.Cli
