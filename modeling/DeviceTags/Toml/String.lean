import DeviceTags.Toml.Scan

/-!
# Strings and keys

The four kinds of TOML string and the dotted keys made of bare and quoted parts. A basic string has
escapes, a literal one has none; three quotes open a string of several lines, whose first line break
is dropped and which may end in up to two quotes of its own.
-/

namespace DeviceTags.Toml

/-- Where the scan of a basic string stands: between characters, after a backslash that joins lines
(skipping space, or still looking for the line break), or inside a numeric escape. -/
inductive Escape where
  | outside
  | joining
  | beforeBreak
  | code (missing value : Nat)

def shortEscape? : Char → Option Char
  | 'b' => some '\x08'
  | 't' => some '\t'
  | 'n' => some '\n'
  | 'f' => some '\x0c'
  | 'r' => some '\r'
  | '"' => some '"'
  | '\\' => some '\\'
  | _ => none

def prepend (c : Char) (scan : Scan (List Char × List Char)) : Scan (List Char × List Char) :=
  scan.map fun found => (c :: found.1, found.2)

/-- The rest of a basic string, up to and without its closing quotes. -/
def basicBody (multiline : Bool) : Escape → List Char → Scan (List Char × List Char)
  | _, [] => .error .malformed
  | .code missing value, c :: rest =>
    match Text.digitValue? c with
    | none => .error .malformed
    | some digit =>
      let code := value * 16 + digit
      if missing > 1 then basicBody multiline (.code (missing - 1) code) rest
      else if code.isValidChar then
        prepend (Char.ofNat code) (basicBody multiline .outside rest)
      else .error .malformed
  | .beforeBreak, c :: rest =>
    if isBlank c then basicBody multiline .beforeBreak rest
    else if c = '\n' then basicBody multiline .joining rest
    else .error .malformed
  | state, c :: rest =>
    if (match state with | .joining => isBlank c || c = '\n' | _ => false) then
      basicBody multiline .joining rest
    else if c = '"' then
      if multiline then
        match rest with
        | '"' :: '"' :: after => .ok ([], after)
        | _ => prepend '"' (basicBody multiline .outside rest)
      else .ok ([], rest)
    else if c = '\\' then
      match rest with
      | [] => .error .malformed
      | e :: after =>
        if multiline && isBlank e then basicBody multiline .beforeBreak after
        else if multiline && e = '\n' then basicBody multiline .joining after
        else if e = 'u' then basicBody multiline (.code 4 0) after
        else if e = 'U' then basicBody multiline (.code 8 0) after
        else match shortEscape? e with
          | some character => prepend character (basicBody multiline .outside after)
          | none => .error .malformed
    else if isForbidden c && !(multiline && c = '\n') then .error .malformed
    else prepend c (basicBody multiline .outside rest)

/-- The rest of a literal string, up to and without its closing quotes. -/
def literalBody (multiline : Bool) : List Char → Scan (List Char × List Char)
  | [] => .error .malformed
  | c :: rest =>
    if c = '\'' then
      if multiline then
        match rest with
        | '\'' :: '\'' :: after => .ok ([], after)
        | _ => prepend '\'' (literalBody multiline rest)
      else .ok ([], rest)
    else if isForbidden c && !(multiline && c = '\n') then .error .malformed
    else prepend c (literalBody multiline rest)

/-- The text without the line break it starts with. -/
def dropBreak : List Char → List Char
  | '\n' :: rest => rest
  | text => text

/-- Up to two quotes right after the closing ones belong to a string of several lines. -/
def withTrailingQuotes (quote : Char) (found : List Char × List Char) : List Char × List Char :=
  match found with
  | (text, a :: b :: rest) =>
    if a = quote then
      if b = quote then (text ++ [quote, quote], rest) else (text ++ [quote], b :: rest)
    else (text, a :: b :: rest)
  | (text, [a]) => if a = quote then (text ++ [quote], []) else (text, [a])
  | (text, []) => (text, [])

/-- A string token of any kind, if the text starts with one. -/
def string? (text : List Char) : Option (Scan (String × List Char)) :=
  let finish (scan : Scan (List Char × List Char)) : Scan (String × List Char) :=
    scan.map fun found => (String.ofList found.1, found.2)
  match text with
  | '"' :: '"' :: '"' :: rest =>
    some (finish ((basicBody true .outside (dropBreak rest)).map (withTrailingQuotes '"')))
  | '"' :: rest => some (finish (basicBody false .outside rest))
  | '\'' :: '\'' :: '\'' :: rest =>
    some (finish ((literalBody true (dropBreak rest)).map (withTrailingQuotes '\'')))
  | '\'' :: rest => some (finish (literalBody false rest))
  | _ => none

/-- A character of a bare key. -/
def isBareKeyChar (c : Char) : Bool :=
  c.isAlphanum || c = '_' || c = '-'

/-- One part of a key: bare, or quoted on one line. -/
def keyPart (text : List Char) : Scan (String × List Char) :=
  match text with
  | '"' :: rest => (basicBody false .outside rest).map fun found => (String.ofList found.1, found.2)
  | '\'' :: rest => (literalBody false rest).map fun found => (String.ofList found.1, found.2)
  | _ =>
    let name := text.takeWhile isBareKeyChar
    if name.isEmpty then .error .malformed
    else .ok (String.ofList name, text.drop name.length)

/-- The parts of a dotted key, at most as many as the bound. -/
def keyParts : Nat → List Char → Scan (List String × List Char)
  | 0, _ => .error .malformed
  | bound + 1, text => do
    let (part, rest) ← keyPart text
    match skipBlanks rest with
    | '.' :: after =>
      let (parts, rest) ← keyParts bound (skipBlanks after)
      pure (part :: parts, rest)
    | after => pure ([part], after)

/-- A dotted key and the blanks after it. -/
def key (text : List Char) : Scan (List String × List Char) :=
  keyParts (text.length + 1) text

end DeviceTags.Toml
