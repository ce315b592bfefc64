import Chip8.Proofs.Digits
import Mathlib.Data.Nat.Digits.Defs
import Mathlib.Data.Set.List

/-! Addresses as they may be written: any number of marks, a plus sign or none, and digits, each in
a case of its own. The reader takes exactly these texts, as far as the number fits into 16 bits, and
gives what the digits stand for by their places. It takes off all marks at once, which loses no
reading: an `x` is neither a sign nor a digit, so no mark can stand where the number has begun. -/

namespace Chip8.Number

/-- A digit as it is written. The case shows above nine only. -/
structure Digit where
  letters : Hex.LetterCase
  value : Fin 16

def Digit.char (d : Digit) : Char := Hex.digit d.letters d.value

/-- The number that digits stand for, by their places. -/
def placeValue (ds : List Digit) : Nat := Nat.ofDigits 16 (ds.map (·.value.val)).reverse

/-- So many times `0x`. -/
def hexMarks (n : Nat) : List Char := (List.replicate n ['0', 'x']).flatten

def plus (signed : Bool) : List Char := if signed then ['+'] else []

/-- A way to write a number. -/
structure Numeral where
  marks : Nat
  signed : Bool
  digits : List Digit
  digits_ne_nil : digits ≠ []

namespace Numeral

variable (t : Numeral)

def text : String :=
  String.ofList (hexMarks t.marks ++ (plus t.signed ++ t.digits.map Digit.char))

def value : Nat := placeValue t.digits

end Numeral

/-! ### Digits -/

theorem digitValue?_char (d : Digit) : digitValue? 16 d.char = some d.value.val :=
  Hex.digitValue?_digit d.letters d.value.isLt

/-- The characters between two others are counted from the first. -/
theorem exists_offset {first last c : Char} (h : first ≤ c ∧ c ≤ last) :
    ∃ n, n < last.toNat + 1 - first.toNat ∧ Char.ofNat (first.toNat + n) = c := by
  have hfirst : first.toNat ≤ c.toNat := UInt32.le_iff_toNat_le.mp (Char.le_def.mp h.1)
  have hlast : c.toNat ≤ last.toNat := UInt32.le_iff_toNat_le.mp (Char.le_def.mp h.2)
  refine ⟨c.toNat - first.toNat, by omega, ?_⟩
  rw [Nat.add_sub_cancel' hfirst, Char.ofNat_toNat]

theorem exists_digit {c : Char} (h : (digitValue? 16 c).isSome) : ∃ d : Digit, d.char = c := by
  have hdecimal : ∀ n : Fin 10, Hex.digit .lower n = Char.ofNat ('0'.toNat + n) := by decide
  have hlower : ∀ n : Fin 6, Hex.digit .lower (10 + n) = Char.ofNat ('a'.toNat + n) := by decide
  have hupper : ∀ n : Fin 6, Hex.digit .upper (10 + n) = Char.ofNat ('A'.toNat + n) := by decide
  unfold digitValue? at h
  split at h
  next hrange =>
    obtain ⟨n, hn, rfl⟩ := exists_offset hrange
    exact ⟨⟨.lower, ⟨n, Nat.lt_trans hn (by decide)⟩⟩, hdecimal ⟨n, hn⟩⟩
  next =>
    split at h
    next hrange =>
      obtain ⟨n, hn, rfl⟩ := exists_offset hrange
      exact ⟨⟨.lower, ⟨10 + n, Nat.add_lt_add_left hn 10⟩⟩, hlower ⟨n, hn⟩⟩
    next =>
      split at h
      next hrange =>
        obtain ⟨n, hn, rfl⟩ := exists_offset hrange
        exact ⟨⟨.upper, ⟨10 + n, Nat.add_lt_add_left hn 10⟩⟩, hupper ⟨n, hn⟩⟩
      next => simp at h

theorem exists_digits {cs : List Char} (h : ∀ c ∈ cs, (digitValue? 16 c).isSome) :
    ∃ ds : List Digit, ds.map Digit.char = cs := by
  have hmem : cs ∈ Set.range (List.map Digit.char) := by
    rw [Set.range_list_map]
    exact fun c hc => exists_digit (h c hc)
  exact hmem

theorem placeValue_cons (d : Digit) (ds : List Digit) :
    placeValue (d :: ds) = d.value * 16 ^ ds.length + placeValue ds := by
  rw [placeValue, List.map_cons, Nat.ofDigits_reverse_cons, List.length_map, Nat.add_comm,
    Nat.mul_comm, placeValue]

theorem readOn_chars (before : Nat) (ds : List Digit) :
    Hex.readOn before (ds.map Digit.char) = some (before * 16 ^ ds.length + placeValue ds) := by
  induction ds generalizing before with
  | nil => simp [Hex.readOn, placeValue]
  | cons d ds ih =>
    rw [List.map_cons, Hex.readOn, digitValue?_char, Option.bind_some, ih, placeValue_cons,
      List.length_cons]
    congr 1
    ring

theorem readOn_eq_some_iff {n : Nat} {cs : List Char} :
    Hex.readOn 0 cs = some n ↔ ∃ ds : List Digit, ds.map Digit.char = cs ∧ placeValue ds = n := by
  have hzero (ds : List Digit) : Hex.readOn 0 (ds.map Digit.char) = some (placeValue ds) := by
    rw [readOn_chars, Nat.zero_mul, Nat.zero_add]
  constructor
  · intro h
    obtain ⟨ds, rfl⟩ := exists_digits (Hex.isSome_of_readOn h)
    rw [hzero, Option.some_inj] at h
    exact ⟨ds, rfl, h⟩
  · rintro ⟨ds, rfl, rfl⟩
    exact hzero ds

theorem le_of_readOn {before n : Nat} {cs : List Char} (h : Hex.readOn before cs = some n) :
    before ≤ n := by
  obtain ⟨ds, rfl⟩ := exists_digits (Hex.isSome_of_readOn h)
  rw [readOn_chars, Option.some_inj] at h
  have hpos : 0 < 16 ^ ds.length := Nat.pow_pos (by decide)
  have hle : before ≤ before * 16 ^ ds.length := Nat.le_mul_of_pos_right before hpos
  omega

/-- The check after each digit is a check of the whole number, as this only grows. -/
theorem accumulate_eq_ok_iff {limit acc n : Nat} {cs : List Char} (hacc : acc ≤ limit) :
    accumulate 16 limit acc cs = .ok n ↔ Hex.readOn acc cs = some n ∧ n ≤ limit := by
  induction cs generalizing acc with
  | nil =>
    simp only [accumulate, Hex.readOn, Except.ok.injEq, Option.some.injEq]
    constructor
    · rintro rfl
      exact ⟨rfl, hacc⟩
    · exact And.left
  | cons c cs ih =>
    rw [accumulate, Hex.readOn]
    cases digitValue? 16 c with
    | none => simp
    | some d =>
      simp only [Option.bind_some]
      split
      next hle => exact ih hle
      next hgt =>
        simp only [reduceCtorEq, false_iff, not_and]
        intro hread hn
        -- what has passed the limit stays above it
        exact hgt ((le_of_readOn hread).trans hn)

/-! ### The sign -/

theorem ofChars_plus (base limit : Nat) (signed : Bool) {cs : List Char} (hne : cs ≠ [])
    (hplus : '+' ∉ cs) :
    ofChars base limit (plus signed ++ cs) = accumulate base limit 0 cs := by
  cases cs with
  | nil => exact absurd rfl hne
  | cons c cs =>
    cases signed with
    | true => rfl
    | false =>
      have hc : c ≠ '+' := fun h => hplus (by simp [h])
      simp [plus, ofChars, hc]

theorem exists_plus {base limit n : Nat} {cs : List Char} (h : ofChars base limit cs = .ok n) :
    ∃ signed ds, ds ≠ [] ∧ plus signed ++ ds = cs ∧ accumulate base limit 0 ds = .ok n := by
  unfold ofChars at h
  split at h
  next => cases h
  next => cases h
  next c cs => exact ⟨true, c :: cs, List.cons_ne_nil c cs, rfl, h⟩
  next c cs _ _ => exact ⟨false, c :: cs, List.cons_ne_nil c cs, rfl, h⟩

/-! ### The marks -/

theorem hexMarks_succ (n : Nat) : hexMarks (n + 1) = '0' :: 'x' :: hexMarks n := by
  simp [hexMarks, List.replicate_succ]

theorem stripHexMarks_append (n : Nat) (cs : List Char) :
    stripHexMarks (hexMarks n ++ cs) = stripHexMarks cs := by
  induction n with
  | zero => rfl
  | succ n ih => rw [hexMarks_succ, List.cons_append, List.cons_append, stripHexMarks, ih]

theorem stripHexMarks_of_not_mem {cs : List Char} (h : 'x' ∉ cs) : stripHexMarks cs = cs := by
  unfold stripHexMarks
  split
  next => simp at h
  next => rfl

theorem exists_marks (cs : List Char) : ∃ n, hexMarks n ++ stripHexMarks cs = cs := by
  fun_induction stripHexMarks cs with
  | case1 cs ih =>
    obtain ⟨n, hn⟩ := ih
    exact ⟨n + 1, by rw [hexMarks_succ, List.cons_append, List.cons_append, hn]⟩
  | case2 cs => exact ⟨0, rfl⟩

/-! ### Addresses -/

theorem not_mem_chars {c : Char} (hc : digitValue? 16 c = none) (ds : List Digit) :
    c ∉ ds.map Digit.char := by
  intro hmem
  obtain ⟨d, -, rfl⟩ := List.mem_map.mp hmem
  rw [digitValue?_char] at hc
  cases hc

theorem ofChars_text {t : Numeral} {limit : Nat} (h : t.value ≤ limit) :
    ofChars 16 limit (stripHexMarks t.text.toList) = .ok t.value := by
  -- the stripping stops where the number begins, also in front of a zero
  have hx : 'x' ∉ plus t.signed ++ t.digits.map Digit.char := by
    rw [List.mem_append, not_or]
    refine ⟨?_, not_mem_chars (by decide) t.digits⟩
    cases t.signed <;> decide
  have hplus : '+' ∉ t.digits.map Digit.char := not_mem_chars (by decide) t.digits
  have hne : t.digits.map Digit.char ≠ [] := by simpa using t.digits_ne_nil
  have hread : Hex.readOn 0 (t.digits.map Digit.char) = some t.value :=
    readOn_eq_some_iff.mpr ⟨t.digits, rfl, rfl⟩
  rw [Numeral.text, String.toList_ofList, stripHexMarks_append, stripHexMarks_of_not_mem hx,
    ofChars_plus 16 limit t.signed hne hplus]
  exact (accumulate_eq_ok_iff (Nat.zero_le limit)).mpr ⟨hread, h⟩

theorem exists_numeral {s : String} {limit n : Nat}
    (h : ofChars 16 limit (stripHexMarks s.toList) = .ok n) :
    n ≤ limit ∧ ∃ t : Numeral, t.text = s ∧ t.value = n := by
  obtain ⟨marks, hmarks⟩ := exists_marks s.toList
  obtain ⟨signed, digits, hne, hsigned, haccumulate⟩ := exists_plus h
  obtain ⟨hread, hn⟩ := (accumulate_eq_ok_iff (Nat.zero_le limit)).mp haccumulate
  obtain ⟨ds, rfl, hvalue⟩ := readOn_eq_some_iff.mp hread
  refine ⟨hn, ⟨marks, signed, ds, by simpa using hne⟩, ?_, hvalue⟩
  rw [Numeral.text, hsigned, hmarks, String.ofList_toList]

theorem address_eq_ok_iff {s : String} {a : UInt16} :
    address s = .ok a ↔ ∃ t : Numeral, t.text = s ∧ t.value = a.toNat := by
  constructor
  · intro h
    rw [address] at h
    cases hread : ofChars 16 0xffff (stripHexMarks s.toList) with
    | error e =>
      rw [hread] at h
      cases h
    | ok n =>
      rw [hread] at h
      obtain rfl := Except.ok.inj h
      obtain ⟨hn, t, htext, hvalue⟩ := exists_numeral hread
      exact ⟨t, htext, by rw [hvalue, UInt16.toNat_ofNat_of_lt' (Nat.lt_succ_of_le hn)]⟩
  · rintro ⟨t, rfl, hvalue⟩
    have hlimit : t.value ≤ 0xffff := hvalue.trans_le (Nat.le_of_lt_succ a.toNat_lt)
    rw [address, ofChars_text hlimit, hvalue]
    exact congrArg Except.ok UInt16.ofNat_toNat

/-- A number is read as it was written. -/
theorem address_write (marks width : Nat) (c : Hex.LetterCase) (a : UInt16) :
    address (String.ofList (hexMarks marks) ++ Hex.write c width a.toNat) = .ok a := by
  obtain ⟨ds, hds, hvalue⟩ := readOn_eq_some_iff.mp (Hex.readOn_write c width a.toNat)
  have hne : ds ≠ [] := by
    rintro rfl
    rw [Hex.toList_write, List.map_nil, List.nil_eq, List.append_eq_nil_iff] at hds
    exact Hex.digits_ne_nil c a.toNat hds.2
  rw [address_eq_ok_iff]
  refine ⟨⟨marks, false, ds, hne⟩, ?_, hvalue⟩
  simp [Numeral.text, hds, plus, String.ofList_append]

/-- The texts that are read as addresses are the numerals of the numbers below 0x10000. -/
theorem address_reads_numerals :
    (∀ s, (∃ a, address s = .ok a) ↔ ∃ t : Numeral, t.text = s ∧ t.value ≤ 0xffff) ∧
      (∀ s a, address s = .ok a ↔ ∃ t : Numeral, t.text = s ∧ t.value = a.toNat) ∧
      ∀ (c : Hex.LetterCase) (width : Nat) (a : UInt16),
        address (Hex.write c width a.toNat) = .ok a ∧
          address ("0x" ++ Hex.write c width a.toNat) = .ok a := by
  refine ⟨fun s => ?_, fun s a => address_eq_ok_iff, fun c width a => ⟨?_, ?_⟩⟩
  · constructor
    · rintro ⟨a, ha⟩
      obtain ⟨t, htext, hvalue⟩ := address_eq_ok_iff.mp ha
      have hlimit : a.toNat ≤ 0xffff := Nat.le_of_lt_succ a.toNat_lt
      exact ⟨t, htext, hvalue.trans_le hlimit⟩
    · rintro ⟨t, htext, hlimit⟩
      refine ⟨UInt16.ofNat t.value, address_eq_ok_iff.mpr ⟨t, htext, ?_⟩⟩
      rw [UInt16.toNat_ofNat_of_lt' (Nat.lt_succ_of_le hlimit)]
  · simpa [hexMarks] using address_write 0 width c a
  · exact address_write 1 width c a

/-- A zero in front of a mark is a digit, and the mark then stands where none is allowed. -/
example : address "0x0x+05" = .ok 5 ∧ address "00x5" = .error .invalidDigit ∧
    address "0x" = .error .empty := by decide

end Chip8.Number
