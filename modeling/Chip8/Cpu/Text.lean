import Chip8.Cpu.Basic
import Chip8.Disassembler
import Chip8.Text.Align

/-! The state of a processor as a short table and as a record. -/

namespace Chip8.Cpu

/-- One register of the table. -/
def registerText (r : Nat) (b : UInt8) : String :=
  "v" ++ Hex.upper 0 r ++ ": " ++ Hex.lower 2 b.toNat ++ " " ++ if r % 4 = 3 then "\n" else ""

/-- A line for the pointers, four lines for the registers, and a line for the timers. -/
def dump (cpu : Cpu) : String :=
  "PC: " ++ Hex.lower 4 cpu.pc.toNat ++ ", SP: " ++ Hex.lower 2 cpu.stack.depth ++
    ", I: " ++ Hex.lower 4 cpu.i.toNat ++ "\n" ++
    String.join (cpu.v.toList.zipIdx.map fun (b, r) => registerText r b) ++
    "DLY: " ++ cpu.delay.toNat.repr ++ ", SND: " ++ cpu.sound.toNat.repr ++
    ", CYC: " ++ Align.right 6 cpu.cycle.repr ++ "\n"

def inspect (cpu : Cpu) : String :=
  Inspect.partialRecord "CPU" [
    ("flags", cpu.flags.inspect),
    ("mem", cpu.memory.inspect),
    ("stack", Inspect.sequence (cpu.stack.toList.map fun a => a.toNat.repr)),
    ("pc", cpu.pc.toNat.repr),
    ("i", cpu.i.toNat.repr),
    ("v", Inspect.sequence (cpu.v.toList.map fun b => b.toNat.repr)),
    ("delay", cpu.delay.toNat.repr),
    ("sound", cpu.sound.toNat.repr),
    ("cycle", cpu.cycle.repr),
    ("breakpoints", Inspect.sequence (cpu.breakpoints.map fun a => a.toNat.repr)),
    ("disassembler", Disassembler.coloured.inspect)]

end Chip8.Cpu
