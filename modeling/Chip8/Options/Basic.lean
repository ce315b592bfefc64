import Chip8.Text.Align

/-! Command lines declared as data: the options of a program, each with what it does to a value that
holds the settings, and the one argument that stands free. -/

namespace Chip8.Options

/-- What an option does to the settings. -/
inductive Action (α : Type) where
  /-- Stands alone. -/
  | flag (set : α → α)
  /-- Takes an argument, which may be unfit for it. -/
  | argument (set : α → String → Except String α)

/-- An option with a letter and a name. -/
structure Declaration (α : Type) where
  short : Char
  long : String
  /-- The name of the argument in the help text. -/
  placeholder : Option String
  help : String
  /-- What the help text tells as the default. -/
  preset : Option String
  action : Action α

/-- The argument that belongs to no option, and has to be there. -/
structure FreeArgument (α : Type) where
  name : String
  help : String
  set : α → String → α
  isSet : α → Bool

structure CommandLine (α : Type) where
  initial : α
  free : FreeArgument α
  options : List (Declaration α)
  /-- Whether the settings ask for the help text. -/
  wantsHelp : α → Bool

/-- An option that stands alone. -/
def flag {α : Type} (short : Char) (long help : String) (set : α → α) : Declaration α :=
  ⟨short, long, none, help, none, .flag set⟩

/-- An option with an argument. -/
def argument {α : Type} (short : Char) (long placeholder help : String) (preset : Option String)
    (set : α → String → Except String α) : Declaration α :=
  ⟨short, long, some placeholder, help, preset, .argument set⟩

/-! ### Help text -/

namespace Declaration

variable {α : Type} (d : Declaration α)

def usage : String :=
  "-" ++ d.short.toString ++ ", --" ++ d.long ++
    match d.placeholder with
    | some name => " " ++ name
    | none => ""

def description : String :=
  d.help ++
    match d.preset with
    | some value => " (default: " ++ value ++ ")"
    | none => ""

end Declaration

/-- A line of the help text, with its description in the given column. -/
def helpLine (column : Nat) (usage description : String) : String :=
  Align.left column ("  " ++ usage) ++ description ++ "\n"

/-- The column of the descriptions: two spaces, the widest entry, two spaces. -/
def CommandLine.helpColumn {α : Type} (c : CommandLine α) : Nat :=
  4 + ((c.free.name :: c.options.map (·.usage)).map String.length).foldl max 0

def CommandLine.help {α : Type} (c : CommandLine α) (program : String) : String :=
  "Usage: " ++ program ++ " [OPTIONS]\n\nPositional arguments:\n" ++
    helpLine c.helpColumn c.free.name c.free.help ++ "\nOptional arguments:\n" ++
    String.join (c.options.map fun d => helpLine c.helpColumn d.usage d.description)

end Chip8.Options
