import Chip8.Cpu.Execute
import Chip8.Disassembler
import Chip8.Text.Align

/-! One tick: fetch, decode, execute, and a look at the breakpoints. -/

namespace Chip8

/-- What a run of any length leaves behind: processor, host, the lines written on the way, and
whether it ended well. -/
structure Run (σ : Type) where
  cpu : Cpu
  host : σ
  trace : Array String
  result : Except Error Unit

namespace Cpu

/-- The word at the program counter. -/
def fetch (cpu : Cpu) : UInt16 := cpu.memory.readWord cpu.pc.toNat

/-- The line of an instruction that is about to be executed: its number, address and text. -/
def traceLine (cycle : Nat) (pc word : UInt16) : String :=
  Ansi.coloured .brightBlack (Align.right 3 cycle.repr) ++ " " ++ Hex.lower 3 pc.toNat ++ ": " ++
    Align.left 36 (Disassembler.coloured.text word)

/-- What tracing writes of the instruction to come. -/
def traceNext (cpu : Cpu) (word : UInt16) : Array String :=
  if cpu.flags.tracing then #[traceLine (cpu.cycle + 1) cpu.pc word] else #[]

def countCycle (cpu : Cpu) : Cpu := { cpu with cycle := cpu.cycle + 1 }

/-- Pauses if the instruction to follow has a breakpoint. -/
def checkBreakpoint {σ : Type} (cpu : Cpu) (host : σ) (trace : Array String) : Run σ :=
  if cpu.pc ∈ cpu.breakpoints then
    ⟨{ cpu with flags.paused := true }, host, trace, .error (.breakpointHit cpu.pc cpu.fetch)⟩
  else ⟨cpu, host, trace, .ok ()⟩

variable {σ : Type} [Host σ]

/-- Executes the instruction of a word, if it is one. -/
def executeWord (cpu : Cpu) (host : σ) (word : UInt16) : Executed σ :=
  match Instruction.decode ⟨word⟩ with
  | some i => cpu.execute host i
  | none => ⟨cpu, host, some (.unimplementedInstruction cpu.pc word)⟩

/-- A tick of a machine that is not paused. -/
def step (cpu : Cpu) (host : σ) : Run σ :=
  let word := cpu.fetch
  let trace := cpu.traceNext word
  match cpu.countCycle.executeWord host word with
  | ⟨cpu, host, some fault⟩ => ⟨cpu, host, trace, .error fault⟩
  | ⟨cpu, host, none⟩ => cpu.checkBreakpoint host trace

/-- Executes one instruction; during a pause at most the cycle counter moves. -/
def tick (cpu : Cpu) (host : σ) : Run σ :=
  if cpu.flags.paused then
    ⟨if cpu.flags.countPaused then cpu.countCycle else cpu, host, #[], .ok ()⟩
  else cpu.step host

end Cpu

end Chip8
