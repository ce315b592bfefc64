import Chip8.Instruction.Basic

/-! The instruction table read the other way: the word of an instruction. -/

namespace Chip8.Instruction

/-- Every operand fits into its field of the word. -/
def InRange : Instruction → Prop
  | cls | ret => True
  | jmp a | call a | movI a | jmpr a => a.toNat ≤ 0xfff
  | seb x _ | sneb x _ | movb x _ | addb x _ | rand x _ => x ≤ 0xf
  | se x y | mov x y | or x y | and x y | xor x y | add x y | sub x y | shr x y | bsub x y | shl x y
  | sne x y => x ≤ 0xf ∧ y ≤ 0xf
  | draw x y n => x ≤ 0xf ∧ y ≤ 0xf ∧ n.toNat ≤ 0xf
  | sek x | snek x | getdt x | waitk x | setdt x | movst x | addI x | font x | bcd x | dmao x
  | dmai x => x ≤ 0xf

instance (i : Instruction) : Decidable i.InRange := by
  cases i <;> unfold InRange <;> infer_instance

/-- A word from its top digit and an address. -/
def wordOfAddress (family : Nat) (a : UInt16) : UInt16 := UInt16.ofNat (family * 0x1000 + a.toNat)

/-- A word from its top digit, a register and a byte. -/
def wordOfByte (family x b : Nat) : UInt16 := UInt16.ofNat (family * 0x1000 + x * 0x100 + b)

/-- A word from its top digit, two registers and a last digit. -/
def wordOfRegisters (family x y n : Nat) : UInt16 :=
  UInt16.ofNat (family * 0x1000 + x * 0x100 + y * 0x10 + n)

def encode : Instruction → UInt16
  | cls => 0x00e0
  | ret => 0x00ee
  | jmp a => wordOfAddress 0x1 a
  | call a => wordOfAddress 0x2 a
  | seb x b => wordOfByte 0x3 x b.toNat
  | sneb x b => wordOfByte 0x4 x b.toNat
  | se x y => wordOfRegisters 0x5 x y 0x0
  | movb x b => wordOfByte 0x6 x b.toNat
  | addb x b => wordOfByte 0x7 x b.toNat
  | mov x y => wordOfRegisters 0x8 x y 0x0
  | or x y => wordOfRegisters 0x8 x y 0x1
  | and x y => wordOfRegisters 0x8 x y 0x2
  | xor x y => wordOfRegisters 0x8 x y 0x3
  | add x y => wordOfRegisters 0x8 x y 0x4
  | sub x y => wordOfRegisters 0x8 x y 0x5
  | shr x y => wordOfRegisters 0x8 x y 0x6
  | bsub x y => wordOfRegisters 0x8 x y 0x7
  | shl x y => wordOfRegisters 0x8 x y 0xe
  | sne x y => wordOfRegisters 0x9 x y 0x0
  | movI a => wordOfAddress 0xa a
  | jmpr a => wordOfAddress 0xb a
  | rand x b => wordOfByte 0xc x b.toNat
  | draw x y n => wordOfRegisters 0xd x y n.toNat
  | sek x => wordOfByte 0xe x 0x9e
  | snek x => wordOfByte 0xe x 0xa1
  | getdt x => wordOfByte 0xf x 0x07
  | waitk x => wordOfByte 0xf x 0x0a
  | setdt x => wordOfByte 0xf x 0x15
  | movst x => wordOfByte 0xf x 0x18
  | addI x => wordOfByte 0xf x 0x1e
  | font x => wordOfByte 0xf x 0x29
  | bcd x => wordOfByte 0xf x 0x33
  | dmao x => wordOfByte 0xf x 0x55
  | dmai x => wordOfByte 0xf x 0x65

end Chip8.Instruction
