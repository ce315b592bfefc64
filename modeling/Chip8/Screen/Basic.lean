import Chip8.Text.Inspect

/-! The screen: rows of pixels that are lit or not, with one byte for each of them. Coordinates are
taken modulo the width and the height, so what is drawn over an edge comes in at the opposite one. -/

namespace Chip8

structure Screen where
  width : Nat
  height : Nat
  /-- Row after row, zero for a dark pixel and one for a lit one. -/
  pixels : Array UInt8
  /-- Something was drawn since the mark was last taken. -/
  dirty : Bool
  deriving DecidableEq

/-- A screen without a pixel. -/
structure ScreenSizeError where
  width : Nat
  height : Nat
  deriving DecidableEq

def ScreenSizeError.message (e : ScreenSizeError) : String :=
  s!"screen must be at least 1x1, got {e.width}x{e.height}"

namespace Screen

def standardWidth : Nat := 64

def standardHeight : Nat := 32

/-- No pixel is lit. Their number is counted in sixty-four bits. -/
def blank (width height : Nat) : Screen :=
  ⟨width, height, Array.replicate (width * height % 0x10000000000000000) 0, false⟩

def standard : Screen := blank standardWidth standardHeight

/-- A blank screen, refused if it has no pixel. -/
def ofSize (width height : Nat) : Except ScreenSizeError Screen :=
  if 0 < width ∧ 0 < height then .ok (blank width height) else .error ⟨width, height⟩

/-- The place of a pixel in the row-wise order. -/
def index (s : Screen) (x y : Nat) : Nat := y % s.height * s.width + x % s.width

def get (s : Screen) (x y : Nat) : Bool := s.pixels.getD (s.index x y) 0 != 0

def clear (s : Screen) : Screen :=
  { s with pixels := Array.replicate s.pixels.size 0, dirty := true }

def takeDirty (s : Screen) : Bool × Screen := (s.dirty, { s with dirty := false })

/-- Flips one pixel, and tells whether it was lit. -/
def flip (s : Screen) (x y : Nat) : Bool × Screen :=
  let i := s.index x y
  match s with
  | ⟨width, height, pixels, dirty⟩ =>
    let pixel := pixels.getD i 0
    (pixel != 0, ⟨width, height, pixels.setIfInBounds i (pixel ^^^ 1), dirty⟩)

/-- The columns of a sprite. -/
def columns : List Nat := [0, 1, 2, 3, 4, 5, 6, 7]

/-- Whether a sprite's row sets a column, the highest bit being column zero. -/
def sets (line : UInt8) (column : Nat) : Bool := line &&& 0x80 >>> UInt8.ofNat column != 0

/-- Flips the pixels under one row of a sprite, and tells whether a lit one was among them. -/
def blitLine (line : UInt8) (x y : Nat) (hit : Bool) (s : Screen) : Bool × Screen :=
  columns.foldl
    (fun (hit, s) column =>
      if sets line column then
        let (lit, s) := s.flip (x + column) y
        (hit || lit, s)
      else (hit, s))
    (hit, s)

def blitLines (x : Nat) : (y : Nat) → List UInt8 → Bool → Screen → Bool × Screen
  | _, [], hit, s => (hit, s)
  | y, line :: lines, hit, s =>
    let (hit, s) := blitLine line x y hit s
    blitLines x (y + 1) lines hit s

/-- Draws a sprite of eight columns, and tells whether a lit pixel was turned off on the way. -/
def blit (s : Screen) (sprite : List UInt8) (x y : UInt8) : Bool × Screen :=
  let (hit, s) := blitLines x.toNat y.toNat sprite false s
  (hit, { s with dirty := true })

/-- The number of lit pixels. -/
def lit (s : Screen) : Nat := s.pixels.countP (· != 0)

def inspect (s : Screen) : String :=
  Inspect.record "Screen" [("width", s.width.repr), ("height", s.height.repr),
    ("lit", s.lit.repr), ("dirty", Inspect.bool s.dirty)]

end Screen

end Chip8
