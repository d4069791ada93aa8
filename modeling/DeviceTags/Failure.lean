import DeviceTags.Datum
import DeviceTags.FileTree

/-!
# Failures

Why an operation did not go through: one constructor for each cause, with what the message needs.
The wording is in `Failure.message`, and `Failure.kind` sorts the causes into the kinds that callers
tell apart and that the error log names. A lookup that finds nothing is no failure.
-/

namespace DeviceTags

/-- The kinds of failure, those of this library first. -/
inductive Kind where
  | tagging
  | parameter
  | invalidIterator
  | resource
  | format
  | value
  | memory
  | key
  | attribute
  | runtime
  | recursion
  | system
  | fileMissing
  | filePresent
  | notDirectory
  | isDirectory
  | textEncoding
  | documentSyntax
  | wrongType
  | general
  | other (name : String)
  deriving DecidableEq, Repr

namespace Kind

def name : Kind → String
  | .tagging => "BlkidError"
  | .parameter => "ParameterError"
  | .invalidIterator => "InvalidIteratorError"
  | .resource => "ResourceError"
  | .format => "FormatError"
  | .value => "ValueError"
  | .memory => "MemoryError"
  | .key => "KeyError"
  | .attribute => "AttributeError"
  | .runtime => "RuntimeError"
  | .recursion => "RecursionError"
  | .system => "OSError"
  | .fileMissing => "FileNotFoundError"
  | .filePresent => "FileExistsError"
  | .notDirectory => "NotADirectoryError"
  | .isDirectory => "IsADirectoryError"
  | .textEncoding => "UnicodeDecodeError"
  | .documentSyntax => "TOMLDecodeError"
  | .wrongType => "TypeError"
  | .general => "Exception"
  | .other name => name

def ofName (name : String) : Kind :=
  let known : List Kind :=
    [.tagging, .parameter, .invalidIterator, .resource, .format, .value, .memory, .key, .attribute,
      .runtime, .recursion, .system, .fileMissing, .filePresent, .notDirectory, .isDirectory,
      .textEncoding, .documentSyntax, .wrongType, .general]
  (known.find? (·.name = name)).getD (.other name)

/-- The kinds that a kind belongs to, itself first. -/
def ancestors : Kind → List Kind
  | .tagging => [.tagging, .general]
  | .parameter => [.parameter, .tagging, .value, .general]
  | .invalidIterator => [.invalidIterator, .parameter, .tagging, .value, .general]
  | .resource => [.resource, .tagging, .memory, .general]
  | .format => [.format, .tagging, .value, .general]
  | .recursion => [.recursion, .runtime, .general]
  | .fileMissing => [.fileMissing, .system, .general]
  | .filePresent => [.filePresent, .system, .general]
  | .notDirectory => [.notDirectory, .system, .general]
  | .isDirectory => [.isDirectory, .system, .general]
  | .textEncoding => [.textEncoding, .value, .general]
  | .documentSyntax => [.documentSyntax, .value, .general]
  | .general => [.general]
  | kind => [kind, .general]

def isA (kind ancestor : Kind) : Bool :=
  kind.ancestors.contains ancestor

/-- The name that the error log gives a kind. -/
def qualifiedName (kind : Kind) : String :=
  match kind with
  | .tagging | .parameter | .invalidIterator | .resource | .format =>
    "blkcache.errors." ++ kind.name
  | .documentSyntax => "tomllib." ++ kind.name
  | kind => kind.name

end Kind

inductive Failure where
  | deviceRequired
  | cacheRequired
  | tokenRequired
  | deviceNameRequired
  | tagTypeRequired
  | tagValueRequired
  | tagNameInvalid (given : Datum)
  | tagValueInvalid (given : Datum)
  | attachedElsewhere (device : String)
  | notAttachedHere (device : String)
  | iteratorReleased
  | notAnIterator
  | outOfMemory
  | outOfMemorySetting (tag device : String)
  | outOfMemoryAttaching (device : String)
  | notATag (token : Option String)
  | unclosedQuote (token : String)
  | tagNotListed
  | ownerless (field : String)
  | file (error : FileError)
  | configMissing (path : Path)
  | configNotText
  | configMalformed
  | integerTooLong (digits : Nat)
  | integerUnwritable
  | nestedTooDeep
  | shownTooDeep
  | valueMissing
  | cacheNotTable
  | versionNotInteger (given : Datum)
  | versionTooNew (version supported : Int)
  | priorityNotTable
  | priorityNotInteger (key : String)
  | devicesNotTables
  | deviceNameMissing (entry : Datum)
  | devicePriorityNotInteger (device : String)
  | deviceTagsNotTable (device : String)
  | deviceTagNotString (device tag : String)
  | writerMissing
  | homeUnknown

namespace Failure

def kind : Failure → Kind
  | .deviceRequired | .cacheRequired | .tokenRequired | .deviceNameRequired | .tagTypeRequired
  | .tagValueRequired | .tagNameInvalid _ | .tagValueInvalid _ | .attachedElsewhere _
  | .notAttachedHere _ => .parameter
  | .iteratorReleased | .notAnIterator => .invalidIterator
  | .outOfMemory => .memory
  | .outOfMemorySetting _ _ | .outOfMemoryAttaching _ => .resource
  | .notATag _ | .unclosedQuote _ => .format
  | .tagNotListed => .value
  | .ownerless _ => .attribute
  | .file error =>
    match error.fault with
    | .missing => .fileMissing
    | .present => .filePresent
    | .notDirectory => .notDirectory
    | .isDirectory => .isDirectory
    | .nullCharacter => .value
    | _ => .system
  | .configMissing _ => .fileMissing
  | .configNotText => .textEncoding
  | .configMalformed => .documentSyntax
  | .integerTooLong _ | .integerUnwritable | .cacheNotTable | .versionNotInteger _ | .versionTooNew _ _
  | .priorityNotTable | .priorityNotInteger _ | .devicesNotTables | .deviceNameMissing _
  | .devicePriorityNotInteger _ | .deviceTagsNotTable _ | .deviceTagNotString _ _ => .value
  | .nestedTooDeep | .shownTooDeep => .recursion
  | .valueMissing => .wrongType
  | .writerMissing | .homeUnknown => .runtime

/-- How the messages about a numeral of too many digits begin. -/
def numeralLimitText : String :=
  "Exceeds the limit (" ++ String.ofList (Text.decimal Text.longestNumeral) ++
    " digits) for integer string conversion"

/-- How the messages about a numeral of too many digits end. -/
def numeralLimitAdvice : String :=
  "; use sys.set_int_max_str_digits() to increase the limit"

/-- How the messages about too deep a nesting begin. -/
def nestingLimitText : String :=
  "maximum recursion depth exceeded"

def message : Failure → String
  | .deviceRequired => "Device is required"
  | .cacheRequired => "Cache is required"
  | .tokenRequired => "Token is required"
  | .deviceNameRequired => "Device name is required"
  | .tagTypeRequired => "Tag type is required"
  | .tagValueRequired => "Tag value is required"
  | .tagNameInvalid given => "Tag name must be a non-empty string: " ++ given.literal
  | .tagValueInvalid given => "Tag value must be a string: " ++ given.literal
  | .attachedElsewhere device => "Device " ++ device ++ " is attached to another cache"
  | .notAttachedHere device => "Device " ++ device ++ " is not in this cache"
  | .iteratorReleased => "Tag iterator has been released"
  | .notAnIterator => "Not a tag iterator"
  | .outOfMemory => ""
  | .outOfMemorySetting tag device => "Out of memory setting " ++ tag ++ " on " ++ device
  | .outOfMemoryAttaching device => "Out of memory attaching " ++ device
  | .notATag none => "Not a NAME=value tag: None"
  | .notATag (some token) => "Not a NAME=value tag: " ++ Text.quoted token
  | .unclosedQuote token => "Missing closing quote in tag: " ++ Text.quoted token
  | .tagNotListed => "list.remove(x): x not in list"
  | .ownerless field => "'NoneType' object has no attribute " ++ Text.quoted field
  | .file error => error.message
  | .configMissing path => "Config not found: " ++ path.text
  | .configNotText => "the configuration is not UTF-8 text"
  | .configMalformed => "the configuration is not a TOML document"
  | .integerTooLong digits =>
    numeralLimitText ++ ": value has " ++ String.ofList (Text.decimal digits) ++ " digits" ++
      numeralLimitAdvice
  | .nestedTooDeep => nestingLimitText
  | .shownTooDeep => nestingLimitText ++ " while getting the repr of an object"
  | .integerUnwritable => numeralLimitText ++ numeralLimitAdvice
  | .valueMissing => "Object of type 'NoneType' is not TOML serializable"
  | .cacheNotTable => "[cache] must be a table"
  | .versionNotInteger given => "Config version must be an integer: " ++ given.literal
  | .versionTooNew version supported =>
    "Config version " ++ Text.decimalInt version ++ " is newer than supported (" ++
      Text.decimalInt supported ++ ")"
  | .priorityNotTable => "[priority] must be a table of prefix = integer"
  | .priorityNotInteger key => "Priority for " ++ Text.quoted key ++ " must be an integer"
  | .devicesNotTables => "Devices must be declared as [[device]] tables"
  | .deviceNameMissing entry => "[[device]] entry needs a name: " ++ entry.literal
  | .devicePriorityNotInteger device => "Device " ++ device ++ ": priority must be an integer"
  | .deviceTagsNotTable device => "Device " ++ device ++ ": tags must be a table"
  | .deviceTagNotString device tag => "Device " ++ device ++ ": tag " ++ tag ++ " must be a string"
  | .writerMissing => "tomli_w is required to save config. Install with: pip install tomli-w"
  | .homeUnknown => "Could not determine home directory."

/-- The room for nesting in a value that a message shows. -/
def roomToShow : Nat := 993

/-- A failure whose message shows a value. When something in the value keeps it from being shown, that
is the failure instead, and the first such thing decides which. -/
def showing (given : Datum) (failure : Failure) : Failure :=
  match given.hindrance? roomToShow with
  | none => failure
  | some .nestedTooDeep => .shownTooDeep
  | some .integerTooLong => .integerUnwritable

/-- Whether the failure is one of this library's own kinds, which commands report themselves. -/
def isOwn (failure : Failure) : Bool :=
  failure.kind.isA .tagging

end Failure

end DeviceTags
