import Chip8.Entropy.Seeded
import Chip8.Host
import Chip8.Keypad
import Chip8.Screen.Basic

/-! A host without a window, which counts the frames presented to it. -/

namespace Chip8

structure Headless where
  screen : Screen
  keypad : Keypad
  entropy : Entropy
  frames : Nat

namespace Headless

/-- The standard screen, no key held and nothing presented. -/
def ofEntropy (entropy : Entropy) : Headless := ⟨.standard, .empty, entropy, 0⟩

def seeded (seed : UInt64) : Headless := ofEntropy (.seeded seed)

instance : Host Headless where
  randomByte h :=
    let (b, entropy) := h.entropy.draw
    (b, { h with entropy })
  keys h := (h.keypad.mask, h)
  clear h := { h with screen := h.screen.clear }
  blit h sprite x y :=
    match h with
    | ⟨screen, keypad, entropy, frames⟩ =>
      let (hit, screen) := screen.blit sprite x y
      (hit, ⟨screen, keypad, entropy, frames⟩)
  present h := (.ok (), { h with screen := h.screen.takeDirty.2, frames := h.frames + 1 })

end Headless

end Chip8
