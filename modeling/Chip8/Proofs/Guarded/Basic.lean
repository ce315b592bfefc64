import Chip8.Cpu.Tick

/-! A tick with a guard on every access to a table and on every sum, difference and product that may
leave its width: `none` is an access past the end of a table, or a number that does not fit. The
program counter is moved past an instruction before the instruction is executed, as a machine with a
prefetch does it, and moved back after a fault. -/

namespace Chip8.Guarded

/-! ### Accesses -/

def register (v : Registers) (r : Nat) : Option UInt8 := v.cells[r]?

def setRegister (v : Registers) (r : Nat) (b : UInt8) : Option Registers :=
  if h : r < 16 then some ⟨v.cells.set r b⟩ else none

def slot (s : CallStack) (d : Nat) : Option UInt16 := s.slots[d]?

def setSlot (s : CallStack) (d : Nat) (a : UInt16) : Option CallStack :=
  if h : d < 16 then some { s with slots := s.slots.set d a } else none

/-- A cell of memory, at an address that is wrapped first. -/
def cell (m : Memory) (a : Nat) : Option UInt8 := m.cells[a % 0x1000]?

def setCell (m : Memory) (a : Nat) (b : UInt8) : Option Memory :=
  if h : a % 0x1000 < 0x1000 then some ⟨m.cells.set (a % 0x1000) b⟩ else none

/-- Big-endian, like all words. -/
def word (m : Memory) (a : Nat) : Option UInt16 := do
  let high ← cell m a
  let low ← cell m (a + 1)
  return (Opcode.ofBytes high low).word

/-! ### Numbers -/

/-- One more, in eight bits. -/
def increment (n : Nat) : Option Nat := if n + 1 < 0x100 then some (n + 1) else none

/-- One less, but not below zero. -/
def decrement (n : Nat) : Option Nat := if 0 < n then some (n - 1) else none

/-- A sum in sixteen bits. -/
def sum (a b : UInt16) : Option UInt16 :=
  if a.toNat + b.toNat < 0x10000 then some (a + b) else none

/-- A product in sixteen bits. -/
def product (a b : UInt16) : Option UInt16 :=
  if a.toNat * b.toNat < 0x10000 then some (a * b) else none

/-! ### Instructions -/

/-- The address of the instruction that is being executed. -/
def current (cpu : Cpu) : UInt16 := (cpu.pc - 2) % 0x1000

def skipIf (cpu : Cpu) (b : Bool) : Cpu := if b then cpu.advance else cpu

/-- Changes a register by its own value and that of another. -/
def combine (v : Registers) (x y : Nat) (f : UInt8 → UInt8 → UInt8) : Option Registers := do
  setRegister v x (f (← register v x) (← register v y))

/-- Clears the flag register where the dialect asks for it. -/
def resetFlag (v : Registers) (d : Dialect) : Option Registers :=
  if d.clearFlag then setRegister v Registers.flag 0 else some v

/-- Changes a register like `combine`, then the flag register by the values from before. -/
def combineFlag (v : Registers) (x y : Nat) (f flag : UInt8 → UInt8 → UInt8) :
    Option Registers := do
  let a ← register v x
  let b ← register v y
  setRegister (← setRegister v x (f a b)) Registers.flag (flag a b)

/-- The register that a shift reads. -/
def shifted (d : Dialect) (x y : Nat) : Nat := if d.shiftFromY then y else x

/-- Bytes one after the other from an address on, into a buffer of sixteen. -/
def sprite (m : Memory) (a n : Nat) : Option (List UInt8) :=
  if n ≤ 16 then (List.range n).mapM fun k => cell m (a + k) else none

def storeDigits (m : Memory) (a : Nat) (b : UInt8) : Option Memory := do
  let m ← setCell m a (b / 100 % 10)
  let m ← setCell m (a + 1) (b / 10 % 10)
  setCell m (a + 2) (b % 10)

def storeBlock (v : Registers) (m : Memory) (a x : Nat) : Option Memory :=
  (List.range (x + 1)).foldlM (fun m r => do setCell m (a + r) (← register v r)) m

def loadBlock (v : Registers) (m : Memory) (a x : Nat) : Option Registers :=
  (List.range (x + 1)).foldlM (fun v r => do setRegister v r (← cell m (a + r))) v

/-- The index register after a block of the registers up to `x`. -/
def passBlock (cpu : Cpu) (x : Nat) : Option Cpu := do
  if cpu.flags.dialect.passBlocks then
    return { cpu with i := (cpu.i + (← sum (UInt16.ofNat x) 1)) % 0x1000 }
  else return cpu

variable {σ : Type}

/-- No fault, and the registers as they are now. -/
def doneWith (cpu : Cpu) (host : σ) (v : Registers) : Executed σ := .done { cpu with v } host

/-- Executes an instruction behind which the program counter already is. -/
def execute [Host σ] (cpu : Cpu) (host : σ) : Instruction → Option (Executed σ)
  | .cls => some (.done { cpu with flags.dirty := true } (Host.clear host))
  | .ret =>
    if cpu.stack.depth = 0 then some ⟨cpu, host, some (.stackUnderflow (current cpu))⟩
    else do
      let depth ← decrement cpu.stack.depth
      let pc ← slot cpu.stack depth
      return .done { cpu with stack.depth := depth, pc } host
  | .jmp a => some (.done { cpu with pc := a } host)
  | .call a =>
    if CallStack.capacity ≤ cpu.stack.depth then
      some ⟨cpu, host, some (.stackOverflow (current cpu))⟩
    else do
      let stack ← setSlot cpu.stack cpu.stack.depth cpu.pc
      let depth ← increment stack.depth
      return .done { cpu with stack := ⟨stack.slots, depth⟩, pc := a } host
  | .seb x b => do return .done (skipIf cpu ((← register cpu.v x) == b)) host
  | .sneb x b => do return .done (skipIf cpu ((← register cpu.v x) != b)) host
  | .se x y => do return .done (skipIf cpu ((← register cpu.v x) == (← register cpu.v y))) host
  | .movb x b => do return doneWith cpu host (← setRegister cpu.v x b)
  | .addb x b => do
    return doneWith cpu host (← setRegister cpu.v x ((← register cpu.v x) + b))
  | .mov x y => do return doneWith cpu host (← setRegister cpu.v x (← register cpu.v y))
  | .or x y => do
    return doneWith cpu host (← resetFlag (← combine cpu.v x y (· ||| ·)) cpu.flags.dialect)
  | .and x y => do
    return doneWith cpu host (← resetFlag (← combine cpu.v x y (· &&& ·)) cpu.flags.dialect)
  | .xor x y => do
    return doneWith cpu host (← resetFlag (← combine cpu.v x y (· ^^^ ·)) cpu.flags.dialect)
  | .add x y => do
    return doneWith cpu host (← combineFlag cpu.v x y (· + ·)
      fun a b => (decide (0x100 ≤ a.toNat + b.toNat)).toUInt8)
  | .sub x y => do
    return doneWith cpu host (← combineFlag cpu.v x y (· - ·) fun a b => (decide (b ≤ a)).toUInt8)
  | .bsub x y => do
    return doneWith cpu host (← combineFlag cpu.v x y (fun a b => b - a)
      fun a b => (decide (a ≤ b)).toUInt8)
  | .shr x y => do
    let s ← register cpu.v (shifted cpu.flags.dialect x y)
    return doneWith cpu host
      (← setRegister (← setRegister cpu.v x (s >>> 1)) Registers.flag (s &&& 1))
  | .shl x y => do
    let s ← register cpu.v (shifted cpu.flags.dialect x y)
    return doneWith cpu host
      (← setRegister (← setRegister cpu.v x (s <<< 1)) Registers.flag (s >>> 7))
  | .sne x y => do return .done (skipIf cpu ((← register cpu.v x) != (← register cpu.v y))) host
  | .movI a => some (.done { cpu with i := a } host)
  | .jmpr a => do
    return .done { cpu with pc := (a + (← register cpu.v 0).toUInt16) % 0x1000 } host
  | .rand x mask => do
    let (b, host) := Host.randomByte host
    return doneWith cpu host (← setRegister cpu.v x (b &&& mask))
  | .draw x y n => do
    let rows ← sprite cpu.memory cpu.i.toNat n.toNat
    let (hit, host) := Host.blit host rows (← register cpu.v x) (← register cpu.v y)
    let v ← setRegister cpu.v Registers.flag hit.toUInt8
    return .done { cpu with v, flags.dirty := true } host
  | .sek x => do
    let (held, host) := Cpu.isKeyHeld host (← register cpu.v x)
    return .done (skipIf cpu held) host
  | .snek x => do
    let (held, host) := Cpu.isKeyHeld host (← register cpu.v x)
    return .done (skipIf cpu !held) host
  | .getdt x => do return doneWith cpu host (← setRegister cpu.v x cpu.delay)
  | .waitk x =>
    let (keys, host) := Host.keys host
    if keys = 0 then some (.done { cpu with pc := current cpu, flags.awaitingKey := true } host)
    else do
      let v ← setRegister cpu.v x (UInt8.ofNat (Keypad.trailingZeros keys))
      return .done { cpu with v, flags.awaitingKey := false } host
  | .setdt x => do
    let delay ← register cpu.v x
    return .done { cpu with delay } host
  | .movst x => do
    let sound ← register cpu.v x
    return .done { cpu with sound } host
  | .addI x => do
    return .done { cpu with i := (cpu.i + (← register cpu.v x).toUInt16) % 0x1000 } host
  | .font x => do
    let offset ← product Memory.glyphSize (← register cpu.v x).toUInt16
    let i ← sum Memory.fontStart offset
    return .done { cpu with i } host
  | .bcd x => do
    let memory ← storeDigits cpu.memory cpu.i.toNat (← register cpu.v x)
    return .done { cpu with memory } host
  | .dmao x => do
    let memory ← storeBlock cpu.v cpu.memory cpu.i.toNat x
    return .done (← passBlock { cpu with memory } x) host
  | .dmai x => do
    let v ← loadBlock cpu.v cpu.memory cpu.i.toNat x
    return .done (← passBlock { cpu with v } x) host

/-- Pauses if the instruction to follow has a breakpoint. -/
def checkBreakpoint (cpu : Cpu) (host : σ) (trace : Array String) : Option (Run σ) :=
  if cpu.pc ∈ cpu.breakpoints then do
    let next ← word cpu.memory cpu.pc.toNat
    return ⟨{ cpu with flags.paused := true }, host, trace, .error (.breakpointHit cpu.pc next)⟩
  else some ⟨cpu, host, trace, .ok ()⟩

/-- Executes the instruction of a word behind which the program counter is moved first, and back to
which it is moved after a fault. -/
def executeWord [Host σ] (cpu : Cpu) (host : σ) (word : UInt16) : Option (Executed σ) :=
  match Instruction.decode ⟨word⟩ with
  | none => some ⟨cpu, host, some (.unimplementedInstruction cpu.pc word)⟩
  | some i => do
    match ← execute cpu.advance host i with
    | ⟨done, host, some fault⟩ => return ⟨{ done with pc := cpu.pc }, host, some fault⟩
    | ⟨done, host, none⟩ => return .done done host

def step [Host σ] (cpu : Cpu) (host : σ) : Option (Run σ) := do
  let word ← word cpu.memory cpu.pc.toNat
  match ← executeWord cpu.countCycle host word with
  | ⟨done, host, some fault⟩ => return ⟨done, host, cpu.traceNext word, .error fault⟩
  | ⟨done, host, none⟩ => checkBreakpoint done host (cpu.traceNext word)

def tick [Host σ] (cpu : Cpu) (host : σ) : Option (Run σ) :=
  if cpu.flags.paused then
    some ⟨if cpu.flags.countPaused then cpu.countCycle else cpu, host, #[], .ok ()⟩
  else step cpu host

end Chip8.Guarded
