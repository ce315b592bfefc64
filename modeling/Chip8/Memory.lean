import Chip8.Error
import Chip8.Opcode

/-! Four kilobytes of memory. Every address is taken modulo its size, so no access can miss it, and
data that runs past the end goes on at the beginning. -/

namespace Chip8

structure Memory where
  cells : Vector UInt8 0x1000
  deriving DecidableEq

namespace Memory

def size : Nat := 0x1000

/-- Where programs begin. -/
def programStart : UInt16 := 0x200

/-- Where the glyphs of the sixteen digits begin. -/
def fontStart : UInt16 := 0x000

/-- The height of a glyph, one byte a row. -/
def glyphSize : UInt16 := 5

/-- The room for a program. -/
def programRoom : Nat := size - programStart.toNat

def glyphs : List UInt8 := [
  0xf0, 0x90, 0x90, 0x90, 0xf0, -- 0
  0x20, 0x60, 0x20, 0x20, 0x70, -- 1
  0xf0, 0x10, 0xf0, 0x80, 0xf0, -- 2
  0xf0, 0x10, 0xf0, 0x10, 0xf0, -- 3
  0x90, 0x90, 0xf0, 0x10, 0x10, -- 4
  0xf0, 0x80, 0xf0, 0x10, 0xf0, -- 5
  0xf0, 0x80, 0xf0, 0x90, 0xf0, -- 6
  0xf0, 0x10, 0x20, 0x40, 0x40, -- 7
  0xf0, 0x90, 0xf0, 0x90, 0xf0, -- 8
  0xf0, 0x90, 0xf0, 0x10, 0xf0, -- 9
  0xf0, 0x90, 0xf0, 0x90, 0x90, -- A
  0xe0, 0x90, 0xe0, 0x90, 0xe0, -- B
  0xf0, 0x80, 0x80, 0x80, 0xf0, -- C
  0xe0, 0x90, 0x90, 0x90, 0xe0, -- D
  0xf0, 0x80, 0xf0, 0x80, 0xf0, -- E
  0xf0, 0x80, 0xf0, 0x80, 0x80] -- F

def read (m : Memory) (a : Nat) : UInt8 := m.cells[a % 0x1000]

def write (m : Memory) (a : Nat) (b : UInt8) : Memory := ⟨m.cells.set (a % 0x1000) b⟩

/-- The word at an address, high byte first. -/
def readWord (m : Memory) (a : Nat) : UInt16 := (Opcode.ofBytes (m.read a) (m.read (a + 1))).word

def writeWord (m : Memory) (a : Nat) (w : UInt16) : Memory :=
  (m.write a (w / 256).toUInt8).write (a + 1) w.toUInt8

/-- Writes bytes one after the other, starting at an address. -/
def load (m : Memory) (a : Nat) : List UInt8 → Memory
  | [] => m
  | b :: bs => (m.write a b).load (a + 1) bs

/-- The `n` bytes that follow an address, itself included. -/
def readBytes (m : Memory) (a n : Nat) : List UInt8 := (List.range n).map fun k => m.read (a + k)

/-- The cells from `start` up to `stop`, if these bound a part of memory. -/
def get? (m : Memory) (start stop : Nat) : Option (List UInt8) :=
  if start ≤ stop ∧ stop ≤ 0x1000 then some ((m.cells.toList.take stop).drop start) else none

/-- Zeroes the cells from `start` up to `stop`, if these bound a part of memory. -/
def clear (m : Memory) (start stop : Nat) : Memory :=
  if h : start ≤ stop ∧ stop ≤ 0x1000 then
    let cells := m.cells.toList
    ⟨⟨(cells.take start ++ List.replicate (stop - start) 0 ++ cells.drop stop).toArray, by
      simp [cells]; omega⟩⟩
  else m

/-- Zeroes with the glyphs in their place. -/
def initial : Memory := load ⟨Vector.replicate 0x1000 0⟩ fontStart.toNat glyphs

/-- Puts a program where programs begin and zeroes what follows it. One that does not fit is refused
before anything is written. -/
def loadProgram (m : Memory) (program : List UInt8) : Except Error Unit × Memory :=
  if programRoom < program.length then (.error (.programTooLarge program.length programRoom), m)
  else (.ok (), (m.clear programStart.toNat size).load programStart.toNat program)

def inspect (m : Memory) : String :=
  Inspect.partialRecord "Mem" [("len", size.repr),
    ("font", Inspect.sequence ((m.cells.toList.take glyphs.length).map fun b => b.toNat.repr))]

@[simp] theorem read_mod (m : Memory) (a : Nat) : m.read (a % 0x1000) = m.read a := by
  simp [read]

@[simp] theorem length_readBytes (m : Memory) (a n : Nat) : (m.readBytes a n).length = n := by
  simp [readBytes]

theorem read_write (m : Memory) (a c : Nat) (b : UInt8) :
    (m.write a b).read c = if a % 0x1000 = c % 0x1000 then b else m.read c := by
  simp [read, write, Vector.getElem_set]

end Memory

end Chip8
