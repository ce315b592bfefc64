/-! Numbers written in hexadecimal, in either case, with zeros in front up to a width. -/

namespace Chip8.Hex

/-- How the digits above nine are written. -/
inductive LetterCase where
  | lower | upper
  deriving DecidableEq

/-- The digit of a value below sixteen. -/
def digit : LetterCase → Nat → Char
  | .lower, d => Nat.digitChar d
  | .upper, d => (Nat.digitChar d).toUpper

/-- The digits of a number without leading zeros; zero has one digit. -/
def digits (c : LetterCase) (n : Nat) : List Char :=
  if n < 16 then [digit c n] else digits c (n / 16) ++ [digit c (n % 16)]
termination_by n

/-- At least `width` digits. -/
def write (c : LetterCase) (width n : Nat) : String :=
  String.ofList ((digits c n).leftpad width '0')

def lower (width n : Nat) : String := write .lower width n

def upper (width n : Nat) : String := write .upper width n

theorem digits_of_lt (c : LetterCase) {n : Nat} (h : n < 16) : digits c n = [digit c n] := by
  rw [digits, if_pos h]

theorem digits_of_ge (c : LetterCase) {n : Nat} (h : 16 ≤ n) :
    digits c n = digits c (n / 16) ++ [digit c (n % 16)] := by
  rw [digits, if_neg (by omega)]

theorem digits_ne_nil (c : LetterCase) (n : Nat) : digits c n ≠ [] := by
  rw [digits]; split <;> simp

end Chip8.Hex
