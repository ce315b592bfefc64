import Chip8.Instruction.Basic

/-! Which words are instructions, and which. -/

namespace Chip8.Instruction

/-- The register operations share the top digit 8 and are told apart by the last digit. -/
def decodeRegisters (x y : Nat) : Nat → Option Instruction
  | 0x0 => some (mov x y)
  | 0x1 => some (or x y)
  | 0x2 => some (and x y)
  | 0x3 => some (xor x y)
  | 0x4 => some (add x y)
  | 0x5 => some (sub x y)
  | 0x6 => some (shr x y)
  | 0x7 => some (bsub x y)
  | 0xe => some (shl x y)
  | _ => none

/-- The instructions on timers, keys and memory share the top digit F. -/
def decodeMachine (x : Nat) : Nat → Option Instruction
  | 0x07 => some (getdt x)
  | 0x0a => some (waitk x)
  | 0x15 => some (setdt x)
  | 0x18 => some (movst x)
  | 0x1e => some (addI x)
  | 0x29 => some (font x)
  | 0x33 => some (bcd x)
  | 0x55 => some (dmao x)
  | 0x65 => some (dmai x)
  | _ => none

/-- The instruction that a word stands for; `none` if the word is no instruction. -/
def decode (o : Opcode) : Option Instruction :=
  match o.family with
  | 0x0 => if o.word = 0x00e0 then some cls else if o.word = 0x00ee then some ret else none
  | 0x1 => some (jmp o.address)
  | 0x2 => some (call o.address)
  | 0x3 => some (seb o.x o.byte)
  | 0x4 => some (sneb o.x o.byte)
  | 0x5 => if o.nibble = 0 then some (se o.x o.y) else none
  | 0x6 => some (movb o.x o.byte)
  | 0x7 => some (addb o.x o.byte)
  | 0x8 => decodeRegisters o.x o.y o.nibble.toNat
  | 0x9 => if o.nibble = 0 then some (sne o.x o.y) else none
  | 0xa => some (movI o.address)
  | 0xb => some (jmpr o.address)
  | 0xc => some (rand o.x o.byte)
  | 0xd => some (draw o.x o.y o.nibble)
  | 0xe => if o.byte = 0x9e then some (sek o.x) else if o.byte = 0xa1 then some (snek o.x) else none
  | 0xf => decodeMachine o.x o.byte.toNat
  | _ => none

end Chip8.Instruction
