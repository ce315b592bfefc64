import Chip8.Instruction.Decode
import Chip8.Instruction.Encode

/-! The operands of a decoded instruction fit into their fields of the word, so a program names only
registers and addresses that there are. -/

namespace Chip8

namespace Opcode

theorem x_le (o : Opcode) : o.x ≤ 0xf := by
  have := Nat.mod_lt (o.word.toNat / 0x100) (show 16 > 0 by omega)
  unfold x; omega

theorem y_le (o : Opcode) : o.y ≤ 0xf := by
  have := Nat.mod_lt (o.word.toNat / 0x10) (show 16 > 0 by omega)
  unfold y; omega

theorem address_le (o : Opcode) : o.address.toNat ≤ 0xfff := by
  have h : o.address.toNat = o.word.toNat % 0x1000 := by simp [address]
  omega

theorem nibble_le (o : Opcode) : o.nibble.toNat ≤ 0xf := by
  have h : o.nibble.toNat = o.word.toNat % 16 % 256 := by simp [nibble]
  omega

end Opcode

namespace Instruction

theorem inRange_of_decodeRegisters {x y n : Nat} {i : Instruction} (hx : x ≤ 0xf) (hy : y ≤ 0xf)
    (h : decodeRegisters x y n = some i) : i.InRange := by
  unfold decodeRegisters at h
  split at h
  case h_10 => cases h
  all_goals obtain rfl := Option.some.inj h; exact ⟨hx, hy⟩

theorem inRange_of_decodeMachine {x n : Nat} {i : Instruction} (hx : x ≤ 0xf)
    (h : decodeMachine x n = some i) : i.InRange := by
  unfold decodeMachine at h
  split at h
  case h_10 => cases h
  all_goals obtain rfl := Option.some.inj h; exact hx

theorem inRange_of_decode {o : Opcode} {i : Instruction} (h : decode o = some i) : i.InRange := by
  have hx := o.x_le
  have hy := o.y_le
  have ha := o.address_le
  have hn := o.nibble_le
  unfold decode at h
  split at h
  case h_9 => exact inRange_of_decodeRegisters hx hy h
  case h_16 => exact inRange_of_decodeMachine hx h
  all_goals (repeat' split at h) <;> cases h
  all_goals simp_all [InRange]

end Instruction

end Chip8
