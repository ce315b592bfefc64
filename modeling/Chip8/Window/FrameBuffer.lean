import Chip8.Screen.Basic

/-! The picture that a window shows: one colour a pixel. -/

namespace Chip8

structure FrameBufferFormat where
  foreground : UInt32
  background : UInt32
  deriving DecidableEq

/-- Green on slate. -/
def FrameBufferFormat.standard : FrameBufferFormat := ⟨0x0011a434, 0x001e2431⟩

structure FrameBuffer where
  colours : Array UInt32
  width : Nat
  height : Nat
  format : FrameBufferFormat
  deriving DecidableEq

namespace FrameBuffer

/-- All background. -/
def blank (width height : Nat) : FrameBuffer :=
  let format := FrameBufferFormat.standard
  ⟨Array.replicate (width * height) format.background, width, height, format⟩

/-- The colour of a pixel. -/
def colour (format : FrameBufferFormat) (lit : Bool) : UInt32 :=
  if lit then format.foreground else format.background

/-- Takes the picture of a screen; what has no pixel stays as it is. -/
def render (f : FrameBuffer) (s : Screen) : FrameBuffer :=
  { f with
    colours := f.colours.mapIdx fun i old =>
      match s.pixels[i]? with
      | some pixel => colour f.format (pixel != 0)
      | none => old }

def inspect (f : FrameBuffer) : String :=
  Inspect.record "FrameBuffer" [
    ("buffer", Inspect.sequence (f.colours.toList.map fun c => c.toNat.repr)),
    ("width", f.width.repr),
    ("height", f.height.repr),
    ("format", Inspect.record "FrameBufferFormat"
      [("fg", f.format.foreground.toNat.repr), ("bg", f.format.background.toNat.repr)])]

end FrameBuffer

end Chip8
