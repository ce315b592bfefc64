import Chip8.CallStack
import Chip8.Flags
import Chip8.Memory
import Chip8.Registers

/-! The processor: memory, call stack, registers and timers, with the switches that rule it and the
operations of its owner. -/

namespace Chip8

structure Cpu where
  flags : Flags
  memory : Memory
  stack : CallStack
  /-- The program counter. -/
  pc : UInt16
  /-- The index register. -/
  i : UInt16
  v : Registers
  delay : UInt8
  sound : UInt8
  /-- The number of instructions executed. -/
  cycle : Nat
  /-- Where the machine pauses, in the order in which they were set. -/
  breakpoints : List UInt16
  deriving DecidableEq

namespace Cpu

/-- No program, no breakpoint, every flag clear. -/
def initial : Cpu where
  flags := .none
  memory := .initial
  stack := .empty
  pc := Memory.programStart
  i := 0
  v := .zero
  delay := 0
  sound := 0
  cycle := 0
  breakpoints := []

/-- Replaces the program, if memory takes it. -/
def loadProgram (cpu : Cpu) (program : List UInt8) : Except Error Unit × Cpu :=
  let (result, memory) := cpu.memory.loadProgram program
  (result, { cpu with memory })

/-- A processor that is about to run a program. -/
def ofProgram (program : List UInt8) (breakpoints : List UInt16) (flags : Flags) :
    Except Error Cpu :=
  match { initial with flags, breakpoints }.loadProgram program with
  | (.ok (), cpu) => .ok cpu
  | (.error e, _) => .error e

/-- Sets one of the sixteen registers. -/
def setRegister (cpu : Cpu) (r : Nat) (b : UInt8) : Except Error Unit × Cpu :=
  if r < 16 then (.ok (), { cpu with v := cpu.v.set r b }) else (.error (.invalidRegister r), cpu)

/-- Whether the sound timer runs. -/
def isBeeping (cpu : Cpu) : Bool := decide (0 < cpu.sound)

/-- Takes the dialect of a mode. -/
def setMode (cpu : Cpu) (m : Mode) : Cpu := { cpu with flags.dialect := m.dialect }

/-- Goes back to the start of the program and waits for no key any more. -/
def restart (cpu : Cpu) : Cpu :=
  { cpu with pc := Memory.programStart, flags.awaitingKey := false }

/-- Clears all that a run has left behind but memory; breakpoints and switches stay. -/
def reset (cpu : Cpu) : Cpu :=
  { cpu with
    flags.awaitingKey := false
    flags.dirty := false
    stack := .empty
    pc := Memory.programStart
    i := 0
    v := .zero
    delay := 0
    sound := 0
    cycle := 0 }

/-- Sets a breakpoint, unless there is one at the address. -/
def addBreakpoint (cpu : Cpu) (a : UInt16) : Cpu :=
  if a ∈ cpu.breakpoints then cpu else { cpu with breakpoints := cpu.breakpoints ++ [a] }

/-- Removes every breakpoint at the address. -/
def removeBreakpoint (cpu : Cpu) (a : UInt16) : Cpu :=
  { cpu with breakpoints := cpu.breakpoints.filter (· ≠ a) }

/-- One less, but not below zero. -/
def lowered (timer : UInt8) : UInt8 := if timer = 0 then 0 else timer - 1

/-- Both timers run down, sixty times a second. -/
def runTimers (cpu : Cpu) : Cpu :=
  { cpu with delay := lowered cpu.delay, sound := lowered cpu.sound }

end Cpu

end Chip8
