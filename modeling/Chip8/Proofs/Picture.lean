import Chip8.Proofs.Drawing
import Chip8.Proofs.Mirror

/-! What the last picture in a window has to do with the screen. A picture that was just shown is a
picture of the screen, and it stays one until something is drawn, which marks the processor. A screen
that is cleared by other means than an instruction leaves no mark, and is dark. -/

namespace Chip8

/-! ### The size of a screen -/

namespace Screen

theorem flip_size (s : Screen) (x y : Nat) : (s.flip x y).2.pixels.size = s.pixels.size :=
  Array.size_setIfInBounds

theorem blitLine_size (line : UInt8) (x y : Nat) (hit : Bool) (s : Screen) :
    (blitLine line x y hit s).2.pixels.size = s.pixels.size := by
  refine List.foldlRecOn (motive := fun r : Bool × Screen => r.2.pixels.size = s.pixels.size) _ _
    rfl ?_
  rintro ⟨hit, t⟩ h column -
  dsimp only
  split
  · exact (t.flip_size (x + column) y).trans h
  · exact h

theorem blitLines_size (x y : Nat) (lines : List UInt8) (hit : Bool) (s : Screen) :
    (blitLines x y lines hit s).2.pixels.size = s.pixels.size := by
  induction lines generalizing y hit s with
  | nil => rfl
  | cons line lines ih => rw [blitLines, ih, blitLine_size]

theorem blit_size (s : Screen) (sprite : List UInt8) (x y : UInt8) :
    (s.blit sprite x y).2.pixels.size = s.pixels.size :=
  blitLines_size x.toNat y.toNat sprite false s

theorem clear_size (s : Screen) : s.clear.pixels.size = s.pixels.size := Array.size_replicate

theorem clear_lit (s : Screen) : s.clear.lit = 0 := by simp [lit, clear, Array.countP_replicate]

end Screen

/-! ### Pictures -/

namespace FrameBuffer

/-- Pixel by pixel the picture has the foreground colour for a lit one and the background colour for
any other. -/
def Depicts (f : FrameBuffer) (s : Screen) : Prop :=
  f.colours = s.pixels.map fun pixel => colour .standard (pixel != 0)

instance (f : FrameBuffer) (s : Screen) : Decidable (f.Depicts s) :=
  inferInstanceAs (Decidable (_ = _))

/-- The colours tell the lit pixels from the others. -/
theorem Depicts.lit_eq {f : FrameBuffer} {s t : Screen} (hs : f.Depicts s) (ht : f.Depicts t) :
    s.lit = t.lit := by
  have hcount (s : Screen) (hs : f.Depicts s) :
      s.lit = f.colours.countP (· == colour .standard true) := by
    have hc : ∀ lit, (colour .standard lit == colour .standard true) = lit := by decide
    rw [hs, Array.countP_map, Screen.lit]
    simp only [Function.comp_def, hc]
  rw [hcount s hs, hcount t ht]

theorem render_depicts {f : FrameBuffer} {s : Screen} (hs : f.colours.size = s.pixels.size)
    (hf : f.format = .standard) : (f.render s).Depicts s := by
  refine Array.ext (by simp [render, hs]) fun i hi _ => ?_
  have hi' : i < s.pixels.size := by simpa [render, hs] using hi
  simp [render, hi', hf]

end FrameBuffer

/-- The picture that a request is about. -/
def Request.picture? : Request → Option FrameBuffer
  | .shown picture => some picture
  | _ => none

namespace Window

/-- All pictures that were shown, the last one at the end. -/
def pictures (w : Window) : List FrameBuffer := w.requests.toList.filterMap Request.picture?

theorem shows_eq_length (w : Window) : w.shows = w.pictures.length := by
  have hr : Request.isShown = fun r => r.picture?.isSome := by
    funext r
    cases r <;> rfl
  rw [shows, pictures, List.length_filterMap_eq_countP, hr, Array.countP_toList]

theorem pictures_log (w : Window) (r : Request) :
    (w.log r).pictures = w.pictures ++ r.picture?.toList := by
  simp only [pictures, log, Array.toList_push, List.filterMap_append]
  cases r <;> rfl

theorem setTitle_pictures (w : Window) (text : String) : (w.setTitle text).pictures = w.pictures := by
  rw [setTitle, pictures_log]
  exact List.append_nil _

theorem update_pictures (w : Window) : w.update.pictures = w.pictures := by
  rw [update, pictures_log]
  exact List.append_nil _

theorem readKeys_pictures (w : Window) : w.readKeys.2.pictures = w.pictures := by
  unfold readKeys
  split <;> rfl

end Window

/-! ### The host in a window -/

namespace WindowHost

/-- There is a colour for each pixel. -/
structure Framed (h : WindowHost) : Prop where
  size : h.picture.colours.size = h.screen.pixels.size
  format : h.picture.format = .standard

/-- The last picture, once there is one, is a picture of the screen. -/
def UpToDate (h : WindowHost) : Prop :=
  ∀ picture, h.window.pictures.getLast? = some picture → picture.Depicts h.screen

/-- Or else the screen is dark, and something is known of the pictures so far. -/
def UpToDateOr (P : List FrameBuffer → Prop) (h : WindowHost) : Prop :=
  h.UpToDate ∨ h.screen.lit = 0 ∧ P h.window.pictures

variable {P : List FrameBuffer → Prop}

theorem UpToDateOr.imp {Q : List FrameBuffer → Prop} {h : WindowHost}
    (hPQ : P h.window.pictures → Q h.window.pictures) (hP : h.UpToDateOr P) : h.UpToDateOr Q :=
  Or.imp_right (And.imp_right hPQ) hP

theorem UpToDateOr.of_pictures {h h' : WindowHost} (hs : h'.screen = h.screen)
    (hp : h'.window.pictures = h.window.pictures) (hu : h.UpToDateOr P) : h'.UpToDateOr P := by
  unfold UpToDateOr UpToDate
  rw [hs, hp]
  exact hu

theorem upToDateOr_undisturbed : Host.Undisturbed (UpToDateOr P) where
  randomByte h := h
  keys h := h

theorem present_pictures {h : WindowHost} (hs : h.window.current.failure = none) :
    h.present.2.window.pictures = h.window.pictures ++ [h.picture.render h.screen.takeDirty.2] := by
  rw [present_shown hs]
  exact Window.pictures_log _ _

theorem present_framed {h : WindowHost} (hf : h.Framed) : h.present.2.Framed where
  size := by
    have hsize : (h.picture.render h.screen.takeDirty.2).colours.size = h.screen.pixels.size := by
      rw [← hf.size]
      simp [FrameBuffer.render]
    exact hsize
  format := hf.format

theorem framed_keeps : Host.Keeps Framed where
  randomByte h := ⟨h.size, h.format⟩
  keys h := h
  clear h := ⟨h.size.trans (Screen.clear_size _).symm, h.format⟩
  blit sprite x y h := ⟨h.size.trans (Screen.blit_size _ sprite x y).symm, h.format⟩
  present h := present_framed h

/-- A picture that was just shown is a picture of the screen. -/
theorem present_upToDate {h : WindowHost} (hf : h.Framed) (hs : h.window.current.failure = none) :
    h.present.2.UpToDate := by
  intro picture hl
  rw [present_pictures hs, List.getLast?_concat, Option.some.injEq] at hl
  subst hl
  exact FrameBuffer.render_depicts hf.size hf.format

/-- Clearing the screen shows nothing. -/
theorem clear_upToDateOr {h : WindowHost} (hP : P h.window.pictures) : h.clear.UpToDateOr P :=
  .inr ⟨h.screen.clear_lit, hP⟩

end WindowHost

/-! ### The processor -/

namespace Cpu

variable {P : List FrameBuffer → Prop} {cpu : Cpu} {host : WindowHost}

/-- What is not up to date is marked. -/
structure Marks (P : List FrameBuffer → Prop) (cpu : Cpu) (host : WindowHost) : Prop where
  framed : host.Framed
  upToDate : cpu.flags.dirty = false → host.UpToDateOr P

theorem tick_marks (h : cpu.Marks P host) : (cpu.tick host).cpu.Marks P (cpu.tick host).host where
  framed := cpu.tick_keeps WindowHost.framed_keeps h.framed
  upToDate hd := by
    rw [tick_dirty, ← drawsNext, Bool.or_eq_false_iff] at hd
    exact tick_undisturbed WindowHost.upToDateOr_undisturbed hd.1 (h.upToDate hd.2)

theorem ticks_marks (h : cpu.Marks P host) (n : Nat) (trace : Array String) :
    (ticks n cpu host trace).cpu.Marks P (ticks n cpu host trace).host :=
  ticks_induction (P := fun cpu host => cpu.Marks P host) (fun _ _ => tick_marks) n trace h

theorem stepTick_marks (h : cpu.Marks P host) :
    (cpu.stepTick host).cpu.Marks P (cpu.stepTick host).host := by
  have hp : ({ cpu with flags.paused := false } : Cpu).Marks P host := ⟨h.framed, h.upToDate⟩
  have ht := tick_marks hp
  exact ⟨ht.framed, ht.upToDate⟩

/-- A picture that is handed over without failing is handed over to a window that shows it. -/
theorem failure_of_present {run : Run WindowHost} (hd : run.cpu.flags.dirty = true)
    (hf : faulted (present run) = false) : run.host.window.current.failure = none := by
  cases hs : run.host.window.current.failure with
  | none => rfl
  | some reason =>
    have hp : Host.present run.host = _ := WindowHost.present_failed hs
    rw [present_dirty hd, hp] at hf
    cases hf

/-- If the window shows the picture, nothing is marked any more and the picture is up to date. -/
theorem present_marks {run : Run WindowHost} (h : run.cpu.Marks P run.host)
    (hf : faulted (present run) = false) : (present run).cpu.Marks P (present run).host := by
  cases hd : run.cpu.flags.dirty with
  | false => rwa [present_clean hd]
  | true =>
    have hs := failure_of_present hd hf
    rw [present_dirty hd]
    exact ⟨WindowHost.present_framed h.framed,
      fun _ => .inl (WindowHost.present_upToDate h.framed hs)⟩

theorem runFrame_marks (h : cpu.Marks P host) {n : Nat}
    (hf : faulted (cpu.runFrame host n) = false) :
    (cpu.runFrame host n).cpu.Marks P (cpu.runFrame host n).host ∧
      (cpu.runFrame host n).cpu.flags.dirty = false := by
  have ht := ticks_marks h n #[]
  have he := runFrame_of_not_fault (faulted_ticks_of_runFrame hf)
  rw [he] at hf ⊢
  refine ⟨present_marks ⟨ht.framed, ?_⟩ hf, by rw [present_cpu]⟩
  rw [timed_flags]
  exact ht.upToDate

theorem stepOnce_marks (h : cpu.Marks P host) (hf : faulted (cpu.stepOnce host) = false) :
    (cpu.stepOnce host).cpu.Marks P (cpu.stepOnce host).host ∧
      (cpu.stepOnce host).cpu.flags.dirty = false := by
  have he := stepOnce_of_not_fault (faulted_stepTick_of_stepOnce hf)
  rw [he] at hf ⊢
  exact ⟨present_marks (stepTick_marks h) hf, by rw [present_cpu]⟩

end Cpu

end Chip8
