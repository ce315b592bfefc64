import Chip8.Text.Hex
import Chip8.Text.Inspect

/-! An instruction word and its operand fields. Every word has all the fields; which of them mean
something is for the instruction to say. -/

namespace Chip8

/-- A word of 16 bits as it stands in memory, high byte first. -/
structure Opcode where
  word : UInt16
  deriving DecidableEq, Ord

namespace Opcode

def ofBytes (high low : UInt8) : Opcode := ⟨high.toUInt16 * 256 + low.toUInt16⟩

/-- The top four bits. -/
def family (o : Opcode) : Nat := o.word.toNat / 0x1000

/-- The low twelve bits. -/
def address (o : Opcode) : UInt16 := o.word % 0x1000

/-- The low four bits. -/
def nibble (o : Opcode) : UInt8 := (o.word % 16).toUInt8

/-- The second four bits from the top. -/
def x (o : Opcode) : Nat := o.word.toNat / 0x100 % 16

/-- The third four bits from the top. -/
def y (o : Opcode) : Nat := o.word.toNat / 0x10 % 16

/-- The low eight bits. -/
def byte (o : Opcode) : UInt8 := o.word.toUInt8

/-- Four lower-case digits. -/
def text (o : Opcode) : String := Hex.lower 4 o.word.toNat

def inspect (o : Opcode) : String := Inspect.wrapped "Opcode" o.word.toNat.repr

end Opcode

end Chip8
