import DeviceTags.Text.Digits

/-!
# Scanning documents

What the parts of the TOML reader share: why a document is refused, the result of scanning the front
of a text, and the blanks, line breaks and comments between tokens.
-/

namespace DeviceTags.Toml

/-- Why a document is refused. -/
inductive Fault where
  | malformed
  | integerTooLong (digits : Nat)
  | tooDeep
  deriving DecidableEq, Repr

/-- Scanning either refuses the document or goes on. A scanned token comes with the text after it. -/
abbrev Scan := Except Fault

/-- Control characters other than the tab may not stand in a document. -/
def isForbidden (c : Char) : Bool :=
  (c.toNat < 32 && c ≠ '\t') || c.toNat = 127

def isBlank (c : Char) : Bool :=
  c = ' ' || c = '\t'

/-- The text after its leading blanks. -/
def skipBlanks (text : List Char) : List Char :=
  text.dropWhile isBlank

/-- The text from the end of the line on, if it starts with a comment; a comment holds no control
characters. -/
def skipComment : List Char → Scan (List Char)
  | '#' :: rest =>
    if (rest.takeWhile (· ≠ '\n')).any isForbidden then .error .malformed
    else .ok (rest.dropWhile (· ≠ '\n'))
  | text => .ok text

/-- Skips blanks, line breaks and comments, starting inside a comment or outside. -/
def skipSpaceFrom : Bool → List Char → Scan (List Char)
  | _, [] => .ok []
  | true, c :: rest =>
    if c = '\n' then skipSpaceFrom false rest
    else if isForbidden c then .error .malformed
    else skipSpaceFrom true rest
  | false, c :: rest =>
    if isBlank c || c = '\n' then skipSpaceFrom false rest
    else if c = '#' then skipSpaceFrom true rest
    else .ok (c :: rest)

/-- The text after the blanks, line breaks and comments that may stand inside an array. -/
def skipSpace (text : List Char) : Scan (List Char) :=
  skipSpaceFrom false text

/-- A carriage return before a line feed is dropped everywhere, also inside strings. -/
def joinLineEnds : List Char → List Char
  | '\r' :: '\n' :: rest => '\n' :: joinLineEnds rest
  | c :: rest => c :: joinLineEnds rest
  | [] => []

end DeviceTags.Toml
