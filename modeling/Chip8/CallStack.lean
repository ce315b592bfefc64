/-! The addresses to return to. A slot keeps its address after the return, until the next call of
that depth overwrites it. -/

namespace Chip8

structure CallStack where
  slots : Vector UInt16 16
  depth : Nat
  deriving DecidableEq

namespace CallStack

def empty : CallStack := ⟨Vector.replicate 16 0, 0⟩

/-- The number of slots. -/
def capacity : Nat := 16

/-- `none` when every slot is taken. -/
def push? (s : CallStack) (a : UInt16) : Option CallStack :=
  if s.depth < capacity then some ⟨s.slots.setIfInBounds s.depth a, s.depth + 1⟩ else none

/-- The newest address and the stack without it; `none` when there is no address. -/
def pop? (s : CallStack) : Option (UInt16 × CallStack) :=
  match s.depth with
  | 0 => none
  | d + 1 => some (s.slots[d]?.getD 0, ⟨s.slots, d⟩)

/-- The addresses in use, oldest first. -/
def toList (s : CallStack) : List UInt16 := s.slots.toList.take s.depth

end CallStack

end Chip8
