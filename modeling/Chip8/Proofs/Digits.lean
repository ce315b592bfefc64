import Chip8.Text.Hex
import Chip8.Text.Number

/-! Hexadecimal numbers are read as they were written, in either case and with any number of zeros
in front. Nothing but digits is written or read. -/

namespace Chip8.Hex

/-- Reads digits of either case, behind a number that was read before. -/
def readOn (before : Nat) : List Char → Option Nat
  | [] => some before
  | c :: cs => (Number.digitValue? 16 c).bind fun d => readOn (before * 16 + d) cs

/-- The number that digits stand for, of which there is at least one. -/
def read? : List Char → Option Nat
  | [] => none
  | c :: cs => readOn 0 (c :: cs)

theorem digitValue?_digit (c : LetterCase) {d : Nat} (h : d < 16) :
    Number.digitValue? 16 (digit c d) = some d := by
  have hall : ∀ d : Fin 16, Number.digitValue? 16 (digit c d) = some d.val := by
    cases c with
    | lower => decide
    | upper => decide
  exact hall ⟨d, h⟩

theorem readOn_append (before : Nat) (cs ds : List Char) :
    readOn before (cs ++ ds) = (readOn before cs).bind (readOn · ds) := by
  induction cs generalizing before with
  | nil => rfl
  | cons c cs ih => simp only [List.cons_append, readOn, ih, Option.bind_assoc]

theorem readOn_zeros (n : Nat) (cs : List Char) :
    readOn 0 (List.replicate n '0' ++ cs) = readOn 0 cs := by
  have hzero : Number.digitValue? 16 '0' = some 0 := by decide
  induction n with
  | zero => rfl
  | succ n ih => simpa [List.replicate_succ, readOn, hzero] using ih

theorem readOn_digits (c : LetterCase) (n : Nat) : readOn 0 (digits c n) = some n := by
  induction n using digits.induct with
  | case1 n h => simp [digits_of_lt c h, readOn, digitValue?_digit c h]
  | case2 n h ih =>
    have hlast : n % 16 < 16 := Nat.mod_lt n (by decide)
    have hn : n / 16 * 16 + n % 16 = n := by omega
    rw [digits_of_ge c (Nat.not_lt.mp h), readOn_append, ih]
    simp [readOn, digitValue?_digit c hlast, hn]

theorem toList_write (c : LetterCase) (width n : Nat) :
    (write c width n).toList = List.replicate (width - (digits c n).length) '0' ++ digits c n := by
  simp [write, List.leftpad]

theorem readOn_write (c : LetterCase) (width n : Nat) :
    readOn 0 (write c width n).toList = some n := by
  rw [toList_write, readOn_zeros, readOn_digits]

theorem read?_write (c : LetterCase) (width n : Nat) : read? (write c width n).toList = some n := by
  have h := readOn_write c width n
  cases hw : (write c width n).toList with
  | nil =>
    rw [toList_write, List.append_eq_nil_iff] at hw
    exact absurd hw.2 (digits_ne_nil c n)
  | cons d ds => rwa [hw] at h

theorem isSome_of_readOn {before n : Nat} {cs : List Char} (h : readOn before cs = some n) :
    ∀ c ∈ cs, (Number.digitValue? 16 c).isSome := by
  induction cs generalizing before with
  | nil => simp
  | cons c cs ih =>
    obtain ⟨d, hd, hcs⟩ := Option.bind_eq_some_iff.mp h
    rw [List.forall_mem_cons]
    exact ⟨by simp [hd], ih hcs⟩

theorem not_mem_write {x : Char} (hx : Number.digitValue? 16 x = none) (c : LetterCase)
    (width n : Nat) : x ∉ (write c width n).toList := by
  intro hmem
  have hsome := isSome_of_readOn (readOn_write c width n) x hmem
  simp [hx] at hsome

end Chip8.Hex
