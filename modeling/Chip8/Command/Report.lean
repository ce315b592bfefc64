import Chip8.Error
import Chip8.Options.Parse
import Chip8.Text.Ansi

/-! What a command leaves behind: its exit code and its two streams. -/

namespace Chip8

structure Report where
  code : Nat
  output : String
  notes : String
  deriving DecidableEq

namespace Report

/-- A run that ended well. -/
def success (output notes : String) : Report := ⟨0, output, notes⟩

/-- A run that could not go on. -/
def ofError (e : Error) : Report := ⟨1, "", "Error: " ++ e.inspect ++ "\n"⟩

/-- A command line that could not be read. -/
def ofParseError (program : String) (e : Options.ParseError) : Report :=
  ⟨2, "", program ++ ": " ++ e.message ++ "\n"⟩

end Report

/-- The contents of a file, by its path. -/
abbrev ReadFile := String → Except IoCause (List UInt8)

def ReadFile.contents (read : ReadFile) (path : String) : Except Error (List UInt8) :=
  (read path).mapError .io

/-- The settings of a command line, or the report that ends the command: help, or an error. -/
def Options.CommandLine.settings {α : Type} (c : CommandLine α) (program : String)
    (arguments : List String) : Except Report α :=
  match c.parse arguments with
  | .error e => .error (.ofParseError program e)
  | .ok settings =>
    if c.wantsHelp settings then .error ⟨0, "", c.help program⟩ else .ok settings

end Chip8
