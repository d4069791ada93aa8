import DeviceTags.Cli.Options
import DeviceTags.Config.Storage
import DeviceTags.Text.Terminal

/-!
# Tools of the program

What the program leaves to others: reading a command line, printing where there is no terminal, and
writing documents. Of printing it is only known that text without control sequences stays as it is
and that each line is printed by itself, and of the other two nothing.
-/

namespace DeviceTags.Cli

structure Toolkit where
  /-- What a command line asks for. -/
  invocation : List String → Invocation
  /-- What is seen of a text that is printed. -/
  shown : String → String
  /-- What writes a new configuration, if anything does. -/
  writer : Option Config.Writer
  shown_plain : ∀ text, '\x1b' ∉ text.toList → shown text = text
  shown_line : ∀ line rest, shown (line ++ "\n" ++ rest) = shown line ++ "\n" ++ shown rest

/-- The tools that the program is run with. -/
def Toolkit.standard : Toolkit where
  invocation := Invocation.ofArguments
  shown := Text.stripControls
  writer := some .toml
  shown_plain _ := Text.stripControls_of_noEscape
  shown_line := Text.stripControls_line

end DeviceTags.Cli
