import Chip8.Error

/-! The dialects of the instruction set, and the named modes that choose one. -/

namespace Chip8

/-- Three instructions on which machines disagree. -/
structure Dialect where
  /-- Shifts read `vY`. -/
  shiftFromY : Bool
  /-- Block transfers leave `I` past the block. -/
  passBlocks : Bool
  /-- Bitwise operations clear `vF`. -/
  clearFlag : Bool
  deriving DecidableEq, Ord

namespace Dialect

/-- All three decided in the same way. -/
def uniform (b : Bool) : Dialect := ⟨b, b, b⟩

def inspect (d : Dialect) : String :=
  Inspect.record "Quirks" [("shift_vy", Inspect.bool d.shiftFromY),
    ("dma_inc", Inspect.bool d.passBlocks), ("vf_reset", Inspect.bool d.clearFlag)]

end Dialect

inductive Mode where
  | chip8
  | cosmac
  deriving DecidableEq, Ord

namespace Mode

/-- Names are read without regard to case. No letter outside ASCII has a letter of these names as
its lower case. -/
def parse (s : String) : Except Error Mode :=
  let name := s.map Char.toLower
  if name = "chip8" || name = "chip-8" then .ok chip8
  else if name = "cosmac" || name = "vip" || name = "cosmac-vip" then .ok cosmac
  else .error (.invalidMode s)

def text : Mode → String
  | chip8 => "Chip-8"
  | cosmac => "Cosmac VIP"

def name : Mode → String
  | chip8 => "Chip8"
  | cosmac => "Cosmac"

/-- The older machine decides all three in the old way, the other none. -/
def dialect : Mode → Dialect
  | chip8 => .uniform false
  | cosmac => .uniform true

end Mode

end Chip8
