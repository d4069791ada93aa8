import DeviceTags.Path
import DeviceTags.Whole

/-!
# Priorities

Which of several devices with the same tag is preferred: the one with the greater number. A table of
prefixes gives the priority of a device name: the longest prefix of the last part of the name
decides.
-/

namespace DeviceTags

abbrev Priority := Whole

namespace Priority

/-- The priority of a device that no rule mentions. -/
def default : Priority := .integer 0

/-- Device mapper devices. -/
def deviceMapper : Int := 40

/-- Software arrays. -/
def softwareArrays : Int := 10

abbrev Table := List (String × Priority)

/-- The part of a device name after its last slash. -/
def lastPart (name : List Char) : List Char :=
  (Path.pieces name).getLastD []

/-- The better of two entries: the one found before, unless the prefix of the other one is longer. -/
def longer (before : Option (String × Priority)) (entry : String × Priority) :
    Option (String × Priority) :=
  match before with
  | none => some entry
  | some best => if best.1.length < entry.1.length then some entry else some best

/-- The entry whose prefix is the longest of those that start the text. -/
def bestEntry (table : Table) (text : List Char) : Option (String × Priority) :=
  (table.filter fun entry => entry.1.toList.isPrefixOf text).foldl longer none

def ofName (table : Table) (name : String) : Priority :=
  match bestEntry table (lastPart name.toList) with
  | some entry => entry.2
  | none => default

end Priority

end DeviceTags
