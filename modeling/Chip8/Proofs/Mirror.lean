import Chip8.Headless
import Chip8.Proofs.Lockstep
import Chip8.Window.Host

/-! A host in a window and a host without one in lockstep. Keypad, screen and random bytes are the
same, and so is the number of pictures that were shown, as long as the window shows them. -/

namespace Chip8

def Request.isShown : Request → Bool
  | .shown _ => true
  | _ => false

namespace Window

/-- The number of pictures that the window was asked to show. -/
def shows (w : Window) : Nat := w.requests.countP Request.isShown

theorem shows_log (w : Window) (r : Request) :
    (w.log r).shows = w.shows + if r.isShown then 1 else 0 := Array.countP_push

end Window

namespace WindowHost

/-- What a host in a window has in common with one that has no window. -/
structure Mirrors (h : WindowHost) (t : Headless) : Prop where
  keypad : h.keypad = t.keypad
  screen : h.screen = t.screen
  entropy : h.entropy = t.entropy
  shows : h.window.shows = t.frames

/-- Instructions and shown pictures leave the user alone: the keys, and what the script holds. -/
structure SameUser (h start : WindowHost) : Prop where
  keyboard : h.keyboard = start.keyboard
  keypad : h.keypad = start.keypad
  current : h.window.current = start.window.current
  coming : h.window.coming = start.window.coming

variable {start : WindowHost}

theorem present_shown {h : WindowHost} (hs : h.window.current.failure = none) :
    h.present = (.ok (), { h with
      screen := h.screen.takeDirty.2
      picture := h.picture.render h.screen.takeDirty.2
      window := h.window.log (.shown (h.picture.render h.screen.takeDirty.2))
      presented := true }) := by
  simp only [present, Window.display, hs]

theorem present_failed {h : WindowHost} {reason : String}
    (hs : h.window.current.failure = some reason) :
    h.present = (.error (.window .update reason), { h with
      screen := h.screen.takeDirty.2
      picture := h.picture.render h.screen.takeDirty.2
      presented := true }) := by
  simp only [present, Window.display, hs]

theorem simulation (hs : start.window.current.failure = none) :
    Host.Simulation fun (h : WindowHost) (t : Headless) => h.Mirrors t ∧ h.SameUser start where
  randomByte := by
    rintro h t ⟨hm, hu⟩
    have he : h.entropy.draw = t.entropy.draw := congrArg Entropy.draw hm.entropy
    refine ⟨congrArg Prod.fst he, ⟨hm.keypad, hm.screen, congrArg Prod.snd he, hm.shows⟩, ?_⟩
    exact ⟨hu.keyboard, hu.keypad, hu.current, hu.coming⟩
  keys := by
    rintro h t ⟨hm, hu⟩
    exact ⟨congrArg Keypad.mask hm.keypad, hm, hu⟩
  clear := by
    rintro h t ⟨hm, hu⟩
    refine ⟨⟨hm.keypad, congrArg Screen.clear hm.screen, hm.entropy, hm.shows⟩, ?_⟩
    exact ⟨hu.keyboard, hu.keypad, hu.current, hu.coming⟩
  blit := by
    rintro h t sprite x y ⟨hm, hu⟩
    have hb : h.screen.blit sprite x y = t.screen.blit sprite x y :=
      congrArg (Screen.blit · sprite x y) hm.screen
    refine ⟨congrArg Prod.fst hb, ⟨hm.keypad, congrArg Prod.snd hb, hm.entropy, hm.shows⟩, ?_⟩
    exact ⟨hu.keyboard, hu.keypad, hu.current, hu.coming⟩
  present := by
    rintro h t ⟨hm, hu⟩
    have hs' : h.window.current.failure = none := by rw [hu.current, hs]
    have hp : Host.present h = _ := present_shown hs'
    rw [hp]
    have hscreen : h.screen.takeDirty.2 = t.screen.takeDirty.2 :=
      congrArg (fun s => (Screen.takeDirty s).2) hm.screen
    have hshows := h.window.shows_log (.shown (h.picture.render h.screen.takeDirty.2))
    refine ⟨rfl, ⟨hm.keypad, hscreen, hm.entropy, ?_⟩, ?_⟩
    · exact hshows.trans (congrArg (· + 1) hm.shows)
    · exact ⟨hu.keyboard, hu.keypad, hu.current, hu.coming⟩

end WindowHost

end Chip8
