import Chip8.Path
import Chip8.Screen.Basic

/-! A screen saved to a file: one byte a pixel, under a name made of the program's and the cycle. -/

namespace Chip8.Screen

def bytes (s : Screen) : List UInt8 := s.pixels.toList

/-- The name of the file for a program's path and a cycle. -/
def fileName (rom : String) (cycle : Nat) : String :=
  (Path.stem? rom).getD "unknown" ++ "." ++ cycle.repr ++ ".bin"

end Chip8.Screen
