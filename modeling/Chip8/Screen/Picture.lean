import Chip8.Canvas
import Chip8.Screen.Basic

/-! Two pictures of a screen in text: one character a pixel, and one character for each cell of a
canvas on which the lit pixels are set. -/

namespace Chip8.Screen

/-- Cuts a list into pieces of a length; the last of them may be shorter. -/
def chunks {α : Type} : (length : Nat) → List α → List (List α)
  | 0, _ => []
  | _, [] => []
  | n + 1, a :: l => (a :: l.take n) :: chunks (n + 1) (l.drop n)
termination_by _ l => l.length
decreasing_by
  rw [List.length_drop, List.length_cons]
  omega

/-- Full blocks and spaces, each row with a line end. -/
def blocks (s : Screen) : String :=
  String.ofList <| (chunks s.width s.pixels.toList).flatMap fun row =>
    row.map (fun pixel => if pixel != 0 then '█' else ' ') ++ ['\n']

/-- Sets a dot on a canvas for each lit pixel, by its column and its row in thirty-two bits. -/
def drawOn {κ : Type} [Canvas κ] (s : Screen) (canvas : κ) : κ :=
  (s.pixels.toList.zipIdx.filter fun (pixel, _) => pixel != 0).foldl
    (fun canvas (_, index) =>
      Canvas.set canvas (UInt32.ofNat (index % s.width)) (UInt32.ofNat (index / s.width)))
    canvas

/-- The picture on a canvas of the screen's size, as it is printed, with the end of its last line. -/
def printOn (κ : Type) [Canvas κ] (s : Screen) : String :=
  let canvas : κ := Canvas.new (UInt32.ofNat s.width) (UInt32.ofNat s.height)
  Canvas.frame (s.drawOn canvas) ++ "\n"

def print (s : Screen) : String := s.printOn CellCanvas

end Chip8.Screen
