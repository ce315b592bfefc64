import Chip8.Mode
import Chip8.Registers

/-! The register operations of the family 8. The flag register is written last, from the operands as
they were before the operation. -/

namespace Chip8.Registers

/-- Clears the flag register where the dialect asks for it. -/
def resetFlag (v : Registers) (d : Dialect) : Registers := if d.clearFlag then v.set flag 0 else v

def bitOr (v : Registers) (d : Dialect) (x y : Nat) : Registers :=
  (v.set x (v.get x ||| v.get y)).resetFlag d

def bitAnd (v : Registers) (d : Dialect) (x y : Nat) : Registers :=
  (v.set x (v.get x &&& v.get y)).resetFlag d

def bitXor (v : Registers) (d : Dialect) (x y : Nat) : Registers :=
  (v.set x (v.get x ^^^ v.get y)).resetFlag d

/-- The flag is the carry. -/
def add (v : Registers) (x y : Nat) : Registers :=
  let a := v.get x
  let b := v.get y
  (v.set x (a + b)).setFlag (decide (0x100 ≤ a.toNat + b.toNat))

/-- The flag tells that nothing was borrowed. -/
def sub (v : Registers) (x y : Nat) : Registers :=
  let a := v.get x
  let b := v.get y
  (v.set x (a - b)).setFlag (decide (b ≤ a))

/-- Subtraction with the operands exchanged. -/
def backwardsSub (v : Registers) (x y : Nat) : Registers :=
  let a := v.get x
  let b := v.get y
  (v.set x (b - a)).setFlag (decide (a ≤ b))

/-- The operand of a shift, by the dialect. -/
def shiftOperand (v : Registers) (d : Dialect) (x y : Nat) : UInt8 :=
  if d.shiftFromY then v.get y else v.get x

/-- The flag is the bit shifted out. -/
def shiftRight (v : Registers) (d : Dialect) (x y : Nat) : Registers :=
  let s := v.shiftOperand d x y
  (v.set x (s >>> 1)).set flag (s &&& 1)

/-- The flag is the bit shifted out. -/
def shiftLeft (v : Registers) (d : Dialect) (x y : Nat) : Registers :=
  let s := v.shiftOperand d x y
  (v.set x (s <<< 1)).set flag (s >>> 7)

end Chip8.Registers
