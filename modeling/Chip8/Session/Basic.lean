import Chip8.Cpu.Frame
import Chip8.Cpu.Text
import Chip8.Directory
import Chip8.Screen.Picture
import Chip8.Screen.Saved
import Chip8.Window.Host

/-! A program in a window, with what it has written so far. -/

namespace Chip8

structure Session where
  cpu : Cpu
  host : WindowHost
  /-- The number of instructions in a frame. -/
  speed : Nat
  /-- The path of the program. -/
  rom : String
  output : String
  notes : String
  files : Directory

namespace Session

/-- Writes to the standard output. -/
def write (s : Session) (text : String) : Session := { s with output := s.output ++ text }

/-- Writes a line to the standard error. -/
def note (s : Session) (line : String) : Session := { s with notes := s.notes ++ line ++ "\n" }

/-- The session after a run of its processor, and how the run ended. -/
def after (s : Session) (run : Run WindowHost) : Except Error Unit × Session :=
  match run with
  | ⟨cpu, host, trace, result⟩ =>
    let text := String.join (trace.toList.map (· ++ "\n"))
    (result, { s with cpu, host, output := s.output ++ text })

end Session

end Chip8
