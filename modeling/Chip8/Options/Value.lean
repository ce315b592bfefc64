import Chip8.Mode
import Chip8.Options.Basic
import Chip8.Text.Number

/-! The kinds of arguments that options take. -/

namespace Chip8.Options

def number (s : String) : Except String Nat := (Number.decimal s).mapError Number.Defect.message

def address (s : String) : Except String UInt16 := (Number.address s).mapError Number.Defect.message

def seed (s : String) : Except String UInt64 := (number s).map UInt64.ofNat

def mode (s : String) : Except String Mode := (Mode.parse s).mapError Error.message

/-- An option that reads its argument and stores it. -/
def value {α β : Type} (short : Char) (long placeholder help : String) (preset : Option String)
    (read : String → Except String β) (store : α → β → α) : Declaration α :=
  argument short long placeholder help preset fun settings s => (read s).map (store settings)

end Chip8.Options
