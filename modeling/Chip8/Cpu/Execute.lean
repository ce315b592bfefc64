import Chip8.Cpu.Arithmetic
import Chip8.Cpu.Basic
import Chip8.Host
import Chip8.Instruction.Basic
import Chip8.Keypad

/-! What each instruction does. An instruction is executed with the program counter still at its own
address, and leaves it at the address of the instruction to follow. -/

namespace Chip8

/-- A processor and a host after an instruction, and the fault if there was one. -/
structure Executed (σ : Type) where
  cpu : Cpu
  host : σ
  fault : Option Error

/-- No fault. -/
def Executed.done {σ : Type} (cpu : Cpu) (host : σ) : Executed σ := ⟨cpu, host, none⟩

namespace Cpu

/-! ### Control -/

/-- The address of the next word. -/
def following (a : UInt16) : UInt16 := (a + 2) % 0x1000

/-- Goes on to the next instruction. -/
def advance (cpu : Cpu) : Cpu := { cpu with pc := following cpu.pc }

/-- Goes on to the next instruction, or to the one behind it. -/
def skipIf (cpu : Cpu) (b : Bool) : Cpu := if b then cpu.advance.advance else cpu.advance

def jump (cpu : Cpu) (a : UInt16) : Cpu := { cpu with pc := a }

/-- Jumps by `v0` past an address. -/
def jumpIndexed (cpu : Cpu) (a : UInt16) : Cpu :=
  cpu.jump ((a + (cpu.v.get 0).toUInt16) % 0x1000)

/-- Goes back to where the newest call came from; with no call to return from, nothing changes. -/
def returnFrom {σ : Type} (cpu : Cpu) (host : σ) : Executed σ :=
  match cpu.stack.pop? with
  | some (a, stack) => .done { cpu with stack, pc := a } host
  | none => ⟨cpu, host, some (.stackUnderflow cpu.pc)⟩

/-- Jumps and keeps the address to return to; with no room for it, nothing changes. -/
def call {σ : Type} (cpu : Cpu) (host : σ) (a : UInt16) : Executed σ :=
  match cpu.stack.push? (following cpu.pc) with
  | some stack => .done { cpu with stack, pc := a } host
  | none => ⟨cpu, host, some (.stackOverflow cpu.pc)⟩

/-! ### Registers and memory -/

/-- Changes the general registers. -/
def mapRegisters (cpu : Cpu) (f : Registers → Registers) : Cpu := { cpu with v := f cpu.v }

def setIndex (cpu : Cpu) (a : UInt16) : Cpu := { cpu with i := a }

/-- Adds a register to `I`, in twelve bits. -/
def addIndex (cpu : Cpu) (x : Nat) : Cpu :=
  cpu.setIndex ((cpu.i + (cpu.v.get x).toUInt16) % 0x1000)

/-- Points `I` to where the glyph of a register's value is, or would be. -/
def pointToGlyph (cpu : Cpu) (x : Nat) : Cpu :=
  cpu.setIndex (Memory.fontStart + Memory.glyphSize * (cpu.v.get x).toUInt16)

/-- Hundreds, tens and ones. -/
def decimalDigits (b : UInt8) : List UInt8 := [b / 100 % 10, b / 10 % 10, b % 10]

def storeDecimal (cpu : Cpu) (x : Nat) : Cpu :=
  { cpu with memory := cpu.memory.load cpu.i.toNat (decimalDigits (cpu.v.get x)) }

/-- Moves `I` past a block of the registers up to `x`, where the dialect asks for it. -/
def passBlock (cpu : Cpu) (x : Nat) : Cpu :=
  if cpu.flags.dialect.passBlocks then cpu.setIndex ((cpu.i + UInt16.ofNat x + 1) % 0x1000) else cpu

/-- Writes the registers up to `x` to memory from `I` on. -/
def storeBlock (cpu : Cpu) (x : Nat) : Cpu :=
  let block := cpu.v.toList.take (x + 1)
  { cpu with memory := cpu.memory.load cpu.i.toNat block }.passBlock x

/-- Reads the registers up to `x` from memory from `I` on. -/
def loadBlock (cpu : Cpu) (x : Nat) : Cpu :=
  let block := cpu.memory.readBytes cpu.i.toNat (x + 1)
  { cpu with v := cpu.v.load 0 block }.passBlock x

/-! ### The host -/

variable {σ : Type} [Host σ]

def clearScreen (cpu : Cpu) (host : σ) : Executed σ :=
  .done { cpu.advance with flags.dirty := true } (Host.clear host)

def random (cpu : Cpu) (host : σ) (x : Nat) (mask : UInt8) : Executed σ :=
  let (b, host) := Host.randomByte host
  .done (cpu.advance.mapRegisters (·.set x (b &&& mask))) host

/-- Draws at the values that the registers have before the collision is written. -/
def draw (cpu : Cpu) (host : σ) (x y : Nat) (n : UInt8) : Executed σ :=
  let sprite := cpu.memory.readBytes cpu.i.toNat n.toNat
  let (hit, host) := Host.blit host sprite (cpu.v.get x) (cpu.v.get y)
  .done { cpu.advance with v := cpu.v.setFlag hit, flags.dirty := true } host

/-- Whether a key is held. The host is asked only for keys that there are. -/
def isKeyHeld (host : σ) (key : UInt8) : Bool × σ :=
  match Keypad.bit? key.toNat with
  | some bit =>
    let (keys, host) := Host.keys host
    (keys &&& bit != 0, host)
  | none => (false, host)

/-- Skips if the key in a register is held, or if it is not. -/
def skipOnKey (cpu : Cpu) (host : σ) (x : Nat) (held : Bool) : Executed σ :=
  let (pressed, host) := isKeyHeld host (cpu.v.get x)
  .done (cpu.skipIf (pressed == held)) host

/-- Stays where it is until a key is held, then takes the least. -/
def waitForKey (cpu : Cpu) (host : σ) (x : Nat) : Executed σ :=
  let (keys, host) := Host.keys host
  if keys = 0 then .done { cpu with flags.awaitingKey := true } host
  else
    let key := UInt8.ofNat (Keypad.trailingZeros keys)
    .done { cpu.advance with v := cpu.v.set x key, flags.awaitingKey := false } host

/-! ### Every instruction -/

def execute (cpu : Cpu) (host : σ) : Instruction → Executed σ
  | .cls => cpu.clearScreen host
  | .ret => cpu.returnFrom host
  | .jmp a => .done (cpu.jump a) host
  | .call a => cpu.call host a
  | .seb x b => .done (cpu.skipIf (cpu.v.get x == b)) host
  | .sneb x b => .done (cpu.skipIf (cpu.v.get x != b)) host
  | .se x y => .done (cpu.skipIf (cpu.v.get x == cpu.v.get y)) host
  | .movb x b => .done (cpu.advance.mapRegisters (·.set x b)) host
  | .addb x b => .done (cpu.advance.mapRegisters fun v => v.set x (v.get x + b)) host
  | .mov x y => .done (cpu.advance.mapRegisters fun v => v.set x (v.get y)) host
  | .or x y => .done (cpu.advance.mapRegisters (·.bitOr cpu.flags.dialect x y)) host
  | .and x y => .done (cpu.advance.mapRegisters (·.bitAnd cpu.flags.dialect x y)) host
  | .xor x y => .done (cpu.advance.mapRegisters (·.bitXor cpu.flags.dialect x y)) host
  | .add x y => .done (cpu.advance.mapRegisters (·.add x y)) host
  | .sub x y => .done (cpu.advance.mapRegisters (·.sub x y)) host
  | .shr x y => .done (cpu.advance.mapRegisters (·.shiftRight cpu.flags.dialect x y)) host
  | .bsub x y => .done (cpu.advance.mapRegisters (·.backwardsSub x y)) host
  | .shl x y => .done (cpu.advance.mapRegisters (·.shiftLeft cpu.flags.dialect x y)) host
  | .sne x y => .done (cpu.skipIf (cpu.v.get x != cpu.v.get y)) host
  | .movI a => .done (cpu.advance.setIndex a) host
  | .jmpr a => .done (cpu.jumpIndexed a) host
  | .rand x b => cpu.random host x b
  | .draw x y n => cpu.draw host x y n
  | .sek x => cpu.skipOnKey host x true
  | .snek x => cpu.skipOnKey host x false
  | .getdt x => .done (cpu.advance.mapRegisters (·.set x cpu.delay)) host
  | .waitk x => cpu.waitForKey host x
  | .setdt x => .done { cpu.advance with delay := cpu.v.get x } host
  | .movst x => .done { cpu.advance with sound := cpu.v.get x } host
  | .addI x => .done (cpu.advance.addIndex x) host
  | .font x => .done (cpu.advance.pointToGlyph x) host
  | .bcd x => .done (cpu.advance.storeDecimal x) host
  | .dmao x => .done (cpu.advance.storeBlock x) host
  | .dmai x => .done (cpu.advance.loadBlock x) host

end Cpu

end Chip8
