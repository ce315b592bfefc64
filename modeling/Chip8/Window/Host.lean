import Chip8.Entropy
import Chip8.Host
import Chip8.Keypad
import Chip8.Window.Basic

/-! The host in a window: the keyboard as it was last read, the keypad made of it, the screen and
its picture. -/

namespace Chip8

structure WindowHost where
  window : Window
  /-- The keys that were held when the keyboard was last read. -/
  keyboard : List Key
  keypad : Keypad
  screen : Screen
  picture : FrameBuffer
  entropy : Entropy
  /-- A picture was handed to the window since the last frame ended. -/
  presented : Bool

namespace WindowHost

def ofWindow (window : Window) (entropy : Entropy) : WindowHost where
  window := window
  keyboard := []
  keypad := .empty
  screen := .standard
  picture := .blank Screen.standardWidth Screen.standardHeight
  entropy := entropy
  presented := false

def clear (h : WindowHost) : WindowHost := { h with screen := h.screen.clear }

/-- Draws the picture of the screen and shows it. -/
def present (h : WindowHost) : Except Error Unit × WindowHost :=
  let screen := h.screen.takeDirty.2
  let picture := h.picture.render screen
  let (result, window) := h.window.display picture
  (result, { h with screen, picture, window, presented := true })

instance : Host WindowHost where
  randomByte h :=
    let (b, entropy) := h.entropy.draw
    (b, { h with entropy })
  keys h := (h.keypad.mask, h)
  clear := clear
  blit h sprite x y :=
    match h with
    | ⟨window, keyboard, keypad, screen, picture, entropy, presented⟩ =>
      let (hit, screen) := screen.blit sprite x y
      (hit, ⟨window, keyboard, keypad, screen, picture, entropy, presented⟩)
  present := present

end WindowHost

end Chip8
