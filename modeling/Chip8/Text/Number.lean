/-! Reading unsigned numbers, with the three ways in which a text is not one. -/

namespace Chip8.Number

inductive Defect where
  | empty
  | invalidDigit
  | tooLarge
  deriving DecidableEq

def Defect.message : Defect → String
  | .empty => "cannot parse integer from empty string"
  | .invalidDigit => "invalid digit found in string"
  | .tooLarge => "number too large to fit in target type"

/-- The value of a digit, of either case, below the base. -/
def digitValue? (base : Nat) (c : Char) : Option Nat :=
  let value :=
    if '0' ≤ c ∧ c ≤ '9' then some (c.toNat - '0'.toNat)
    else if 'a' ≤ c ∧ c ≤ 'f' then some (c.toNat - 'a'.toNat + 10)
    else if 'A' ≤ c ∧ c ≤ 'F' then some (c.toNat - 'A'.toNat + 10)
    else none
  value.filter (· < base)

/-- Reads digits from the left; the first that is none or that passes the limit ends the reading. -/
def accumulate (base limit : Nat) : Nat → List Char → Except Defect Nat
  | acc, [] => .ok acc
  | acc, c :: cs =>
    match digitValue? base c with
    | none => .error .invalidDigit
    | some d =>
      if acc * base + d ≤ limit then accumulate base limit (acc * base + d) cs
      else .error .tooLarge

/-- A plus sign may stand in front of the digits, of which there is at least one. -/
def ofChars (base limit : Nat) : List Char → Except Defect Nat
  | [] => .error .empty
  | ['+'] => .error .invalidDigit
  | '+' :: c :: cs => accumulate base limit 0 (c :: cs)
  | c :: cs => accumulate base limit 0 (c :: cs)

/-- The largest value of a word of 64 bits. -/
def max64 : Nat := 0xffffffffffffffff

def decimal (s : String) : Except Defect Nat := ofChars 10 max64 s.toList

/-- Removes every `0x` in front. -/
def stripHexMarks : List Char → List Char
  | '0' :: 'x' :: cs => stripHexMarks cs
  | cs => cs

/-- An address of 16 bits in hexadecimal, with any number of `0x` in front. -/
def address (s : String) : Except Defect UInt16 :=
  (ofChars 16 0xffff (stripHexMarks s.toList)).map UInt16.ofNat

end Chip8.Number
