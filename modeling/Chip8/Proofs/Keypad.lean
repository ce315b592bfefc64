import Chip8.Keypad

/-! Sets of keys by their members. A set of keys is a word of sixteen bits, and is known once it is
known which of the sixteen keys it holds. Keys are tested, pressed and released by the bits that
stand for them, and the least key held is found by counting zeros. -/

namespace Chip8.Keypad

/-- Whether a set of keys holds a key. -/
def holds (mask : UInt16) (key : Nat) : Bool := mask.toNat.testBit key

theorem holds_eq (mask : UInt16) (key : Nat) : holds mask key = mask.toBitVec.getLsbD key :=
  BitVec.testBit_toNat _

theorem holds_of_ge (mask : UInt16) {key : Nat} (h : 16 ≤ key) : holds mask key = false := by
  rw [holds_eq]
  exact BitVec.getLsbD_of_ge _ _ h

@[simp] theorem holds_zero (key : Nat) : holds 0 key = false := by
  rw [holds_eq]
  exact BitVec.getLsbD_zero

theorem ext_holds {a b : UInt16} (h : ∀ key < 16, holds a key = holds b key) : a = b := by
  apply UInt16.toBitVec_inj.mp
  apply BitVec.eq_of_getLsbD_eq
  intro key hk
  rw [← holds_eq, ← holds_eq]
  exact h key hk

/-! ### The bit of a key -/

variable {mask bit : UInt16} {n : Nat}

theorem bit?_of_lt (h : n < 16) : bit? n = some (1 <<< UInt16.ofNat n) := if_pos h

theorem bit?_of_ge (h : 16 ≤ n) : bit? n = none := if_neg (Nat.not_lt.mpr h)

/-- The bit of a key is the power of two that has its number for exponent. -/
theorem bit?_eq_some (h : bit? n = some bit) : n < 16 ∧ bit.toBitVec = BitVec.twoPow 16 n := by
  have hall : ∀ n < 16, (1 <<< UInt16.ofNat n : UInt16).toBitVec = BitVec.twoPow 16 n := by decide
  by_cases hn : n < 16
  · obtain rfl := Option.some.inj ((bit?_of_lt hn).symm.trans h)
    exact ⟨hn, hall n hn⟩
  · cases (bit?_of_ge (Nat.not_lt.mp hn)).symm.trans h

/-- A set has the bit of a key in common with it if it holds the key. -/
theorem and_bit?_ne_zero (h : bit? n = some bit) (mask : UInt16) :
    (mask &&& bit != 0) = holds mask n := by
  obtain ⟨hn, hbit⟩ := bit?_eq_some h
  have hne : BitVec.twoPow 16 n ≠ 0#16 := by
    have hall : ∀ n < 16, BitVec.twoPow 16 n ≠ 0#16 := by decide
    exact hall n hn
  rw [holds_eq, Bool.eq_iff_iff, bne_iff_ne, Ne, ← UInt16.toBitVec_inj, UInt16.toBitVec_and, hbit,
    BitVec.and_twoPow]
  cases mask.toBitVec.getLsbD n with
  | true => simpa using hne
  | false => simp

theorem holds_insert (h : bit? n = some bit) (mask : UInt16) (key : Nat) :
    holds (mask ||| bit) key = (holds mask key || decide (n = key)) := by
  obtain ⟨hn, hbit⟩ := bit?_eq_some h
  rw [holds_eq, holds_eq, UInt16.toBitVec_or, BitVec.getLsbD_or, hbit, BitVec.getLsbD_twoPow,
    decide_eq_true hn, Bool.true_and]

theorem holds_remove (h : bit? n = some bit) (mask : UInt16) (key : Nat) :
    holds (mask &&& ~~~bit) key = (holds mask key && !decide (n = key)) := by
  obtain ⟨hn, hbit⟩ := bit?_eq_some h
  rcases Nat.lt_or_ge key 16 with hk | hk
  · rw [holds_eq, holds_eq, UInt16.toBitVec_and, UInt16.toBitVec_not, BitVec.getLsbD_and,
      BitVec.getLsbD_not, hbit, BitVec.getLsbD_twoPow, decide_eq_true hk, decide_eq_true hn,
      Bool.true_and, Bool.true_and]
  · rw [holds_of_ge _ hk, holds_of_ge _ hk, Bool.false_and]

/-! ### The least key -/

theorem holds_trailingZeros (h : mask ≠ 0) : holds mask (trailingZeros mask) = true := by
  rw [holds_eq]
  apply BitVec.getLsbD_true_ctz_of_ne_zero
  rwa [Ne, ← UInt16.toBitVec_inj] at h

theorem trailingZeros_lt (h : mask ≠ 0) : trailingZeros mask < 16 := by
  apply Nat.lt_of_not_le
  intro hle
  cases (holds_of_ge mask hle).symm.trans (holds_trailingZeros h)

theorem holds_of_lt_trailingZeros {key : Nat} (h : key < trailingZeros mask) :
    holds mask key = false := by
  rw [holds_eq]
  exact BitVec.getLsbD_false_of_lt_ctz h

/-! ### Keys that go up and down -/

theorem bit_eq (h : bit? n = some bit) : Keypad.bit n = .ok bit := by
  rw [Keypad.bit, h]

theorem press_bit (k : Keypad) (h : bit? n = some bit) :
    k.press n = (.ok !holds k.mask n, ⟨k.mask ||| bit⟩) := by
  rw [press, bit_eq h, ← and_bit?_ne_zero h, bne, Bool.not_not]

theorem release_bit (k : Keypad) (h : bit? n = some bit) :
    k.release n = (.ok (holds k.mask n), ⟨k.mask &&& ~~~bit⟩) := by
  rw [release, bit_eq h, ← and_bit?_ne_zero h]

/-- A number that names no key is refused, and nothing is pressed, released or found pressed. -/
theorem refused (k : Keypad) (h : 16 ≤ n) :
    k.press n = (.error (.invalidKey n), k) ∧ k.release n = (.error (.invalidKey n), k) ∧
      k.isPressed n = false := by
  have hbit : Keypad.bit n = .error (.invalidKey n) := by rw [Keypad.bit, bit?_of_ge h]
  refine ⟨?_, ?_, ?_⟩
  · rw [press, hbit]
  · rw [release, hbit]
  · rw [isPressed, hbit]

theorem isPressed_eq (k : Keypad) (key : Nat) : k.isPressed key = holds k.mask key := by
  rcases Nat.lt_or_ge key 16 with h | h
  · rw [← and_bit?_ne_zero (bit?_of_lt h), isPressed, bit_eq (bit?_of_lt h)]
  · rw [(k.refused h).2.2, holds_of_ge _ h]

/-- The set of the keys of a list. -/
def setOf : List Nat → UInt16
  | [] => 0
  | n :: ns => setOf ns ||| 1 <<< UInt16.ofNat n

theorem holds_setOf {ns : List Nat} (h : ∀ n ∈ ns, n < 16) (key : Nat) :
    holds (setOf ns) key = decide (key ∈ ns) := by
  induction ns with
  | nil => simp [setOf]
  | cons n ns ih =>
    have hn := bit?_of_lt (h n List.mem_cons_self)
    rw [setOf, holds_insert hn, ih fun n hn => h n (List.mem_cons_of_mem _ hn)]
    rw [Bool.eq_iff_iff]
    simp only [Bool.or_eq_true, decide_eq_true_eq, List.mem_cons]
    constructor
    · rintro (hm | rfl)
      · exact .inr hm
      · exact .inl rfl
    · rintro (rfl | hm)
      · exact .inr rfl
      · exact .inl hm

/-- Brings one key up or down, and leaves the others as they are. -/
def Turns (change : Keypad → Nat → Except Error Bool × Keypad) (down : Bool) : Prop :=
  ∀ (k : Keypad) (n : Nat), n < 16 → ∃ was mask, change k n = (.ok was, ⟨mask⟩) ∧
    ∀ key, holds mask key = if n = key then down else holds k.mask key

theorem press_turns : Turns press true := by
  intro k n hn
  refine ⟨_, _, k.press_bit (bit?_of_lt hn), fun key => ?_⟩
  rw [holds_insert (bit?_of_lt hn)]
  by_cases h : n = key
  · simp [h]
  · simp [h]

theorem release_turns : Turns release false := by
  intro k n hn
  refine ⟨_, _, k.release_bit (bit?_of_lt hn), fun key => ?_⟩
  rw [holds_remove (bit?_of_lt hn)]
  by_cases h : n = key
  · simp [h]
  · simp [h]

end Chip8.Keypad
