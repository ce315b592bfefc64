import Chip8.Error

/-! What a machine is connected to: a screen, a keypad and a source of random bytes. Every access
may change the host. -/

namespace Chip8

class Host (σ : Type) where
  randomByte : σ → UInt8 × σ
  /-- The keys that are held, one bit a key. -/
  keys : σ → UInt16 × σ
  clear : σ → σ
  /-- Draws a sprite at a column and a row, and tells whether a lit pixel was turned off. -/
  blit : σ → List UInt8 → UInt8 → UInt8 → Bool × σ
  /-- Hands the screen to whoever looks at it. -/
  present : σ → Except Error Unit × σ

end Chip8
