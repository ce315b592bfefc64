import Chip8.Opcode

/-! The instruction set. An instruction is named by the mnemonic that the assembly text gives it,
with a letter for the kind of operand where a mnemonic has several: `b` for a byte, `I` for the
index register. -/

namespace Chip8

inductive Instruction where
  /-- Clears the screen. -/
  | cls
  /-- Returns from a subroutine. -/
  | ret
  /-- Jumps to `a`. -/
  | jmp (a : UInt16)
  /-- Calls the subroutine at `a`. -/
  | call (a : UInt16)
  /-- Skips the next instruction if `vX` equals `b`. -/
  | seb (x : Nat) (b : UInt8)
  /-- Skips the next instruction if `vX` differs from `b`. -/
  | sneb (x : Nat) (b : UInt8)
  /-- Skips the next instruction if `vX` equals `vY`. -/
  | se (x y : Nat)
  /-- Puts `b` into `vX`. -/
  | movb (x : Nat) (b : UInt8)
  /-- Adds `b` to `vX`. -/
  | addb (x : Nat) (b : UInt8)
  /-- Puts `vY` into `vX`. -/
  | mov (x y : Nat)
  /-- Puts `vX or vY` into `vX`. -/
  | or (x y : Nat)
  /-- Puts `vX and vY` into `vX`. -/
  | and (x y : Nat)
  /-- Puts `vX xor vY` into `vX`. -/
  | xor (x y : Nat)
  /-- Adds `vY` to `vX`, with the carry in `vF`. -/
  | add (x y : Nat)
  /-- Subtracts `vY` from `vX`; `vF` is 1 unless that borrows. -/
  | sub (x y : Nat)
  /-- Shifts to the right by one; `vF` takes the bit shifted out. -/
  | shr (x y : Nat)
  /-- Puts `vY - vX` into `vX`; `vF` is 1 unless that borrows. -/
  | bsub (x y : Nat)
  /-- Shifts to the left by one; `vF` takes the bit shifted out. -/
  | shl (x y : Nat)
  /-- Skips the next instruction if `vX` differs from `vY`. -/
  | sne (x y : Nat)
  /-- Puts `a` into `I`. -/
  | movI (a : UInt16)
  /-- Jumps to `a + v0`. -/
  | jmpr (a : UInt16)
  /-- Puts a random byte, masked by `b`, into `vX`. -/
  | rand (x : Nat) (b : UInt8)
  /-- Draws `n` bytes from `I` at column `vX` and row `vY`; `vF` tells of a collision. -/
  | draw (x y : Nat) (n : UInt8)
  /-- Skips the next instruction if the key in `vX` is held. -/
  | sek (x : Nat)
  /-- Skips the next instruction if the key in `vX` is not held. -/
  | snek (x : Nat)
  /-- Puts the delay timer into `vX`. -/
  | getdt (x : Nat)
  /-- Waits for a key and puts it into `vX`. -/
  | waitk (x : Nat)
  /-- Sets the delay timer to `vX`. -/
  | setdt (x : Nat)
  /-- Sets the sound timer to `vX`. -/
  | movst (x : Nat)
  /-- Adds `vX` to `I`. -/
  | addI (x : Nat)
  /-- Points `I` to the glyph of `vX`. -/
  | font (x : Nat)
  /-- Writes the three decimal digits of `vX` to memory at `I`. -/
  | bcd (x : Nat)
  /-- Stores `v0` to `vX` at `I`. -/
  | dmao (x : Nat)
  /-- Loads `v0` to `vX` from `I`. -/
  | dmai (x : Nat)
  deriving DecidableEq

end Chip8
