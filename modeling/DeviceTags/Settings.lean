import DeviceTags.Failure

/-!
# Settings from the environment

Where the configuration and the error log are, as the environment says. A directory in the
environment counts unless it is empty; otherwise both are in a directory of the user's home. Looking
for the configuration by itself expands a leading tilde, the command line and the error log take the
directory as it stands.
-/

namespace DeviceTags

/-- What the environment says. `homeOf` knows the home directories of users other than the current
one. -/
structure Environment where
  directory : Option String
  verbose : Option String
  home : Option String
  homeOf : String → Option String

namespace Environment

/-- A home directory without the slashes at its end; the root keeps one. -/
def trimmedHome (home : String) : String :=
  let kept := (home.toList.reverse.dropWhile (· = '/')).reverse
  if kept.isEmpty then "/" else String.ofList kept

/-- The home directory of a user, the current one under the empty name. -/
def homeDirectory (environment : Environment) (user : String) : Option String :=
  (if user = "" then environment.home else environment.homeOf user).map trimmedHome

/-- A path with a leading tilde expanded. -/
def expand (environment : Environment) (path : Path) : Except Failure Path :=
  match path.expandHome environment.homeDirectory with
  | some path => .ok path
  | none => .error .homeUnknown

/-- The directory that the environment gives, if it gives one. -/
def givenDirectory (environment : Environment) : Option Path :=
  match environment.directory with
  | none | some "" => none
  | some directory => some (.ofString directory)

def standardName : String := ".blkcache"

def standardDirectory (environment : Environment) : Except Failure Path := do
  return (← environment.expand (.ofString "~")).child standardName

def configDirectory (environment : Environment) : Except Failure Path :=
  match environment.givenDirectory with
  | some directory => environment.expand directory
  | none => environment.standardDirectory

/-- The directory of the configuration for the command line, where an option may give it. -/
def commandDirectory (environment : Environment) (option : Option String) : Except Failure Path :=
  match option with
  | some directory => .ok (.ofString directory)
  | none =>
    match environment.givenDirectory with
    | some directory => .ok directory
    | none => environment.configDirectory

/-- The name of the error log. -/
def logName : String := "blkcache-errors.log"

/-- The file of the error log. -/
def errorLog (environment : Environment) : Except Failure Path :=
  match environment.givenDirectory with
  | some directory => .ok (directory.child logName)
  | none => return (← environment.standardDirectory).child logName

def isVerbose (environment : Environment) : Bool :=
  environment.verbose = some "1"

end Environment

end DeviceTags
