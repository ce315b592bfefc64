/-! The sixteen general registers. Reading one that does not exist gives zero, and writing it does
nothing; no word names such a register. -/

namespace Chip8

structure Registers where
  cells : Vector UInt8 16
  deriving DecidableEq

namespace Registers

/-- The register that holds carries, borrows and collisions. -/
def flag : Nat := 0xf

def zero : Registers := ⟨Vector.replicate 16 0⟩

def get (v : Registers) (r : Nat) : UInt8 := v.cells[r]?.getD 0

def set (v : Registers) (r : Nat) (b : UInt8) : Registers := ⟨v.cells.setIfInBounds r b⟩

def toList (v : Registers) : List UInt8 := v.cells.toList

/-- Sets registers one after the other, from the given one on. -/
def load (v : Registers) (r : Nat) : List UInt8 → Registers
  | [] => v
  | b :: bs => (v.set r b).load (r + 1) bs

def ofList (bytes : List UInt8) : Registers := zero.load 0 bytes

/-- Writes a truth value to the flag register. -/
def setFlag (v : Registers) (b : Bool) : Registers := v.set flag b.toUInt8

theorem get_set (v : Registers) (r s : Nat) (b : UInt8) :
    (v.set r b).get s = if r = s ∧ r < 16 then b else v.get s := by
  simp only [get, set, Vector.getElem?_setIfInBounds]
  grind

end Registers

end Chip8
