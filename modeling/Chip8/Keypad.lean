import Chip8.Error

/-! The keypad of sixteen keys as the set of keys that are held, one bit a key. -/

namespace Chip8

structure Keypad where
  mask : UInt16
  deriving DecidableEq

namespace Keypad

def empty : Keypad := ⟨0⟩

/-- The bit with a number, if a word of sixteen bits has one. -/
def bit? (n : Nat) : Option UInt16 := if n < 16 then some (1 <<< UInt16.ofNat n) else none

/-- The bit of a key; there is no key above fifteen. -/
def bit (key : Nat) : Except Error UInt16 :=
  match bit? key with
  | some bit => .ok bit
  | none => .error (.invalidKey key)

/-- Presses a key, and tells whether it was up. A number that names no key is refused, and the keypad
stays as it is. -/
def press (k : Keypad) (key : Nat) : Except Error Bool × Keypad :=
  match bit key with
  | .ok bit => (.ok (k.mask &&& bit == 0), ⟨k.mask ||| bit⟩)
  | .error e => (.error e, k)

/-- Releases a key, and tells whether it was down; refused like a press. -/
def release (k : Keypad) (key : Nat) : Except Error Bool × Keypad :=
  match bit key with
  | .ok bit => (.ok (k.mask &&& bit != 0), ⟨k.mask &&& ~~~bit⟩)
  | .error e => (.error e, k)

def releaseAll (k : Keypad) : Keypad := { k with mask := 0 }

/-- Replaces the whole set of keys at once. -/
def set (k : Keypad) (mask : UInt16) : Keypad := { k with mask }

def isPressed (k : Keypad) (key : Nat) : Bool :=
  match bit key with
  | .ok bit => k.mask &&& bit != 0
  | .error _ => false

/-- The number of zeros below the lowest bit of a word, which is the number of this bit. -/
def trailingZeros (mask : UInt16) : Nat := mask.toBitVec.ctz.toNat

def inspect (k : Keypad) : String := Inspect.record "Keypad" [("keys", k.mask.toNat.repr)]

end Keypad

end Chip8
