import Chip8.Proofs.Decode

/-! Decoding undoes encoding on the instructions whose operands fit, and encoding undoes decoding on
the words that stand for one. Both go through the fields: a word that was put together from fields
has these fields, and a word is what its own fields put together. The fields overlap, so each of the
three layouts (an address; a register and a byte; two registers and a digit) has its own lemmas. -/

namespace Chip8

namespace Instruction

/-! ### The fields of a word that was put together -/

section Fields

variable {f x y b n : Nat} {a : UInt16}

theorem toNat_wordOfAddress (hf : f < 16) (ha : a.toNat ≤ 0xfff) :
    (wordOfAddress f a).toNat = f * 0x1000 + a.toNat := by
  simp only [wordOfAddress, UInt16.toNat_ofNat']
  omega

theorem toNat_wordOfByte (hf : f < 16) (hx : x ≤ 0xf) (hb : b < 0x100) :
    (wordOfByte f x b).toNat = f * 0x1000 + x * 0x100 + b := by
  simp only [wordOfByte, UInt16.toNat_ofNat']
  omega

theorem toNat_wordOfRegisters (hf : f < 16) (hx : x ≤ 0xf) (hy : y ≤ 0xf) (hn : n ≤ 0xf) :
    (wordOfRegisters f x y n).toNat = f * 0x1000 + x * 0x100 + y * 0x10 + n := by
  simp only [wordOfRegisters, UInt16.toNat_ofNat']
  omega

theorem family_wordOfAddress (hf : f < 16) (ha : a.toNat ≤ 0xfff) :
    (Opcode.mk (wordOfAddress f a)).family = f := by
  rw [Opcode.family, toNat_wordOfAddress hf ha]
  omega

theorem address_wordOfAddress (hf : f < 16) (ha : a.toNat ≤ 0xfff) :
    (Opcode.mk (wordOfAddress f a)).address = a := by
  rw [← UInt16.toNat_inj]
  simp only [Opcode.address, UInt16.toNat_mod, toNat_wordOfAddress hf ha, UInt16.reduceToNat]
  omega

theorem family_wordOfByte (hf : f < 16) (hx : x ≤ 0xf) (hb : b < 0x100) :
    (Opcode.mk (wordOfByte f x b)).family = f := by
  rw [Opcode.family, toNat_wordOfByte hf hx hb]
  omega

theorem x_wordOfByte (hf : f < 16) (hx : x ≤ 0xf) (hb : b < 0x100) :
    (Opcode.mk (wordOfByte f x b)).x = x := by
  rw [Opcode.x, toNat_wordOfByte hf hx hb]
  omega

theorem byte_wordOfByte (hf : f < 16) (hx : x ≤ 0xf) (hb : b < 0x100) :
    (Opcode.mk (wordOfByte f x b)).byte = UInt8.ofNat b := by
  rw [← UInt8.toNat_inj]
  simp only [Opcode.byte, UInt16.toNat_toUInt8, toNat_wordOfByte hf hx hb, UInt8.toNat_ofNat']
  omega

theorem family_wordOfRegisters (hf : f < 16) (hx : x ≤ 0xf) (hy : y ≤ 0xf) (hn : n ≤ 0xf) :
    (Opcode.mk (wordOfRegisters f x y n)).family = f := by
  rw [Opcode.family, toNat_wordOfRegisters hf hx hy hn]
  omega

theorem x_wordOfRegisters (hf : f < 16) (hx : x ≤ 0xf) (hy : y ≤ 0xf) (hn : n ≤ 0xf) :
    (Opcode.mk (wordOfRegisters f x y n)).x = x := by
  rw [Opcode.x, toNat_wordOfRegisters hf hx hy hn]
  omega

theorem y_wordOfRegisters (hf : f < 16) (hx : x ≤ 0xf) (hy : y ≤ 0xf) (hn : n ≤ 0xf) :
    (Opcode.mk (wordOfRegisters f x y n)).y = y := by
  rw [Opcode.y, toNat_wordOfRegisters hf hx hy hn]
  omega

theorem nibble_wordOfRegisters (hf : f < 16) (hx : x ≤ 0xf) (hy : y ≤ 0xf) (hn : n ≤ 0xf) :
    (Opcode.mk (wordOfRegisters f x y n)).nibble = UInt8.ofNat n := by
  rw [← UInt8.toNat_inj]
  simp only [Opcode.nibble, UInt16.toNat_toUInt8, UInt16.toNat_mod,
    toNat_wordOfRegisters hf hx hy hn, UInt8.toNat_ofNat', UInt16.reduceToNat]
  omega

end Fields

/-! ### A word put together from its fields -/

theorem wordOfAddress_fields (o : Opcode) : wordOfAddress o.family o.address = o.word := by
  have hw := o.word.toNat_lt
  rw [← UInt16.toNat_inj]
  simp only [wordOfAddress, Opcode.family, Opcode.address, UInt16.toNat_mod, UInt16.toNat_ofNat',
    UInt16.reduceToNat]
  omega

theorem wordOfByte_fields (o : Opcode) : wordOfByte o.family o.x o.byte.toNat = o.word := by
  have hw := o.word.toNat_lt
  rw [← UInt16.toNat_inj]
  simp only [wordOfByte, Opcode.family, Opcode.x, Opcode.byte, UInt16.toNat_toUInt8,
    UInt16.toNat_ofNat']
  omega

theorem wordOfRegisters_fields (o : Opcode) :
    wordOfRegisters o.family o.x o.y o.nibble.toNat = o.word := by
  have hw := o.word.toNat_lt
  rw [← UInt16.toNat_inj]
  simp only [wordOfRegisters, Opcode.family, Opcode.x, Opcode.y, Opcode.nibble,
    UInt16.toNat_toUInt8, UInt16.toNat_mod, UInt16.toNat_ofNat', UInt16.reduceToNat]
  omega

/-! ### There and back -/

theorem decode_encode {i : Instruction} (h : i.InRange) : decode ⟨i.encode⟩ = some i := by
  cases i with
  | cls | ret => decide
  | jmp a | call a | movI a | jmpr a =>
    have ha : a.toNat ≤ 0xfff := h
    simp (disch := first | decide | assumption) only
      [encode, decode, family_wordOfAddress, address_wordOfAddress]
  | seb x b | sneb x b | movb x b | addb x b | rand x b =>
    have hx : x ≤ 0xf := h
    have hb := b.toNat_lt
    simp (disch := first | decide | assumption) only
      [encode, decode, family_wordOfByte, x_wordOfByte, byte_wordOfByte, UInt8.ofNat_toNat]
  | draw x y n =>
    obtain ⟨hx, hy, hn⟩ := h
    simp (disch := first | decide | assumption) only [encode, decode, family_wordOfRegisters,
      x_wordOfRegisters, y_wordOfRegisters, nibble_wordOfRegisters, UInt8.ofNat_toNat]
  | se x y | sne x y =>
    obtain ⟨hx, hy⟩ := h
    simp (disch := first | decide | assumption) only [encode, decode, family_wordOfRegisters,
      x_wordOfRegisters, y_wordOfRegisters, nibble_wordOfRegisters]
    rfl
  | mov x y | or x y | and x y | xor x y | add x y | sub x y | shr x y | bsub x y | shl x y =>
    obtain ⟨hx, hy⟩ := h
    simp (disch := first | decide | assumption) only [encode, decode, family_wordOfRegisters,
      x_wordOfRegisters, y_wordOfRegisters, nibble_wordOfRegisters]
    rfl
  | sek x | snek x =>
    have hx : x ≤ 0xf := h
    simp (disch := first | decide | assumption) only
      [encode, decode, family_wordOfByte, x_wordOfByte, byte_wordOfByte]
    rfl
  | getdt x | waitk x | setdt x | movst x | addI x | font x | bcd x | dmao x | dmai x =>
    have hx : x ≤ 0xf := h
    simp (disch := first | decide | assumption) only
      [encode, decode, family_wordOfByte, x_wordOfByte, byte_wordOfByte]
    rfl

theorem encode_of_decodeRegisters {o : Opcode} {i : Instruction} (hf : o.family = 0x8)
    (h : decodeRegisters o.x o.y o.nibble.toNat = some i) : i.encode = o.word := by
  have hw := wordOfRegisters_fields o
  rw [hf] at hw
  unfold decodeRegisters at h
  split at h
  case h_10 => cases h
  all_goals
    next hn =>
      obtain rfl := Option.some.inj h
      rw [hn] at hw
      exact hw

theorem encode_of_decodeMachine {o : Opcode} {i : Instruction} (hf : o.family = 0xf)
    (h : decodeMachine o.x o.byte.toNat = some i) : i.encode = o.word := by
  have hw := wordOfByte_fields o
  rw [hf] at hw
  unfold decodeMachine at h
  split at h
  case h_10 => cases h
  all_goals
    next hb =>
      obtain rfl := Option.some.inj h
      rw [hb] at hw
      exact hw

theorem encode_of_decode {o : Opcode} {i : Instruction} (h : decode o = some i) :
    i.encode = o.word := by
  have ha := wordOfAddress_fields o
  have hb := wordOfByte_fields o
  have hr := wordOfRegisters_fields o
  unfold decode at h
  split at h
  case h_1 =>
    split at h
    next hw =>
      obtain rfl := Option.some.inj h
      exact hw.symm
    next =>
      split at h
      next hw =>
        obtain rfl := Option.some.inj h
        exact hw.symm
      next => cases h
  case h_9 hf => exact encode_of_decodeRegisters hf h
  case h_16 hf => exact encode_of_decodeMachine hf h
  case h_6 hf | h_10 hf =>
    split at h
    next hn =>
      obtain rfl := Option.some.inj h
      rw [hf, hn] at hr
      exact hr
    next => cases h
  case h_15 hf =>
    split at h
    next hn =>
      obtain rfl := Option.some.inj h
      rw [hf, hn] at hb
      exact hb
    next =>
      split at h
      next hn =>
        obtain rfl := Option.some.inj h
        rw [hf, hn] at hb
        exact hb
      next => cases h
  case h_2 hf | h_3 hf | h_11 hf | h_12 hf =>
    obtain rfl := Option.some.inj h
    rw [hf] at ha
    exact ha
  case h_4 hf | h_5 hf | h_7 hf | h_8 hf | h_13 hf =>
    obtain rfl := Option.some.inj h
    rw [hf] at hb
    exact hb
  case h_14 hf =>
    obtain rfl := Option.some.inj h
    rw [hf] at hr
    exact hr
  case h_17 => cases h

/-- A word stands for an instruction if and only if the table has the word for it. -/
theorem decode_eq_some_iff {w : UInt16} {i : Instruction} :
    decode ⟨w⟩ = some i ↔ i.InRange ∧ i.encode = w := by
  constructor
  · intro h
    exact ⟨inRange_of_decode h, encode_of_decode h⟩
  · rintro ⟨h, rfl⟩
    exact decode_encode h

end Instruction
end Chip8
