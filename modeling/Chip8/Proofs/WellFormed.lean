import Chip8.Proofs.Decode
import Chip8.Proofs.Machine

/-! The addresses that a processor holds are addresses of memory: the program counter, the index
register and every slot of the stack, in use or not. Instructions read the slots back into the
program counter, so only all of them together stay in range. -/

namespace Chip8

/-- At most sixteen addresses in use, and memory addresses in all sixteen slots. -/
structure CallStack.WellFormed (s : CallStack) : Prop where
  depth_le : s.depth ≤ 16
  slots_lt : ∀ (d : Nat) (h : d < 16), s.slots[d] < 0x1000

namespace Cpu

structure WellFormed (cpu : Cpu) : Prop where
  pc_lt : cpu.pc < 0x1000
  i_lt : cpu.i < 0x1000
  stack : cpu.stack.WellFormed

theorem mod_size_lt (a : UInt16) : a % 0x1000 < 0x1000 := UInt16.mod_lt a (by decide)

theorem following_lt (a : UInt16) : following a < 0x1000 := mod_size_lt _

theorem lt_of_toNat_le {a : UInt16} (h : a.toNat ≤ 0xfff) : a < 0x1000 := by
  rw [UInt16.lt_iff_toNat_lt]
  exact Nat.lt_succ_of_le h

/-- The last glyph is that of the greatest byte, and it still lies in memory. -/
theorem glyph_lt (b : UInt8) : Memory.fontStart + Memory.glyphSize * b.toUInt16 < 0x1000 := by
  have hb := b.toNat_lt
  have h : (Memory.fontStart + Memory.glyphSize * b.toUInt16).toNat = 5 * b.toNat % 0x10000 := by
    simp [Memory.fontStart, Memory.glyphSize]
  rw [UInt16.lt_iff_toNat_lt, h, Nat.mod_eq_of_lt (by omega)]
  simp only [UInt16.reduceToNat]
  omega

end Cpu

namespace CallStack.WellFormed

variable {s : CallStack}

theorem push (h : s.WellFormed) {a : UInt16} (ha : a < 0x1000) (hd : s.depth < capacity) :
    (CallStack.mk (s.slots.setIfInBounds s.depth a) (s.depth + 1)).WellFormed where
  depth_le := hd
  slots_lt d hd := by
    simp only [Vector.getElem_setIfInBounds]
    split
    · exact ha
    · exact h.slots_lt d hd

theorem pop (h : s.WellFormed) {d : Nat} (hd : s.depth = d + 1) :
    (CallStack.mk s.slots d).WellFormed where
  depth_le := by have := h.depth_le; simp only; omega
  slots_lt := h.slots_lt

theorem newest_lt (h : s.WellFormed) {d : Nat} (hd : s.depth = d + 1) :
    s.slots[d]?.getD 0 < 0x1000 := by
  have hlt : d < 16 := by have := h.depth_le; omega
  rw [Vector.getElem?_eq_getElem hlt]
  exact h.slots_lt d hlt

theorem empty : CallStack.empty.WellFormed where
  depth_le := by decide
  slots_lt d hd := by simp [CallStack.empty]

end CallStack.WellFormed

namespace Cpu

theorem advance_wellFormed {cpu : Cpu} (h : cpu.WellFormed) : cpu.advance.WellFormed :=
  ⟨following_lt _, h.i_lt, h.stack⟩

theorem skipIf_wellFormed {cpu : Cpu} (h : cpu.WellFormed) (b : Bool) :
    (cpu.skipIf b).WellFormed := by
  cases b with
  | false => exact advance_wellFormed h
  | true => exact advance_wellFormed (advance_wellFormed h)

theorem setIndex_wellFormed {cpu : Cpu} (h : cpu.WellFormed) {a : UInt16} (ha : a < 0x1000) :
    (cpu.setIndex a).WellFormed :=
  ⟨h.pc_lt, ha, h.stack⟩

theorem jump_wellFormed {cpu : Cpu} (h : cpu.WellFormed) {a : UInt16} (ha : a < 0x1000) :
    (cpu.jump a).WellFormed :=
  ⟨ha, h.i_lt, h.stack⟩

theorem passBlock_wellFormed {cpu : Cpu} (h : cpu.WellFormed) (x : Nat) :
    (cpu.passBlock x).WellFormed := by
  unfold passBlock
  split
  · exact setIndex_wellFormed h (mod_size_lt _)
  · exact h

variable {σ : Type}

theorem returnFrom_wellFormed {cpu : Cpu} (h : cpu.WellFormed) (host : σ) :
    (cpu.returnFrom host).cpu.WellFormed := by
  cases hd : cpu.stack.depth with
  | zero => rw [returnFrom_empty host hd]; exact h
  | succ d =>
    rw [returnFrom_succ host hd]
    exact ⟨h.stack.newest_lt hd, h.i_lt, h.stack.pop hd⟩

theorem call_wellFormed {cpu : Cpu} (h : cpu.WellFormed) (host : σ) {a : UInt16}
    (ha : a < 0x1000) : (cpu.call host a).cpu.WellFormed := by
  rcases Nat.lt_or_ge cpu.stack.depth CallStack.capacity with hd | hd
  · rw [call_room host a hd]
    exact ⟨ha, h.i_lt, h.stack.push (following_lt _) hd⟩
  · rw [call_full host a hd]
    exact h

variable [Host σ]

theorem execute_wellFormed {cpu : Cpu} (h : cpu.WellFormed) (host : σ) {i : Instruction}
    (hi : i.InRange) : (cpu.execute host i).cpu.WellFormed := by
  have hn := advance_wellFormed h
  cases i with
  | ret => exact returnFrom_wellFormed h host
  | call a => exact call_wellFormed h host (lt_of_toNat_le hi)
  | jmp a => exact jump_wellFormed h (lt_of_toNat_le hi)
  | jmpr a => exact jump_wellFormed h (mod_size_lt _)
  | movI a => exact setIndex_wellFormed hn (lt_of_toNat_le hi)
  | addI x => exact setIndex_wellFormed hn (mod_size_lt _)
  | font x => exact setIndex_wellFormed hn (glyph_lt _)
  | seb | sneb | se | sne | sek | snek => exact skipIf_wellFormed h _
  | waitk =>
    simp only [execute, waitForKey]
    split
    · exact ⟨h.pc_lt, h.i_lt, h.stack⟩
    · exact ⟨hn.pc_lt, hn.i_lt, hn.stack⟩
  | dmao x | dmai x =>
    refine passBlock_wellFormed ?_ x
    exact ⟨hn.pc_lt, hn.i_lt, hn.stack⟩
  | _ => exact ⟨hn.pc_lt, hn.i_lt, hn.stack⟩

theorem tick_wellFormed {cpu : Cpu} (h : cpu.WellFormed) (host : σ) :
    (cpu.tick host).cpu.WellFormed := by
  obtain ⟨_, he⟩ | ⟨e, _, _, he⟩ | ⟨i, done, _, hi, _, rfl, ⟨_, he⟩ | ⟨_, he⟩⟩ :=
    cpu.tick_cases host
  · rw [he]
    split
    · exact ⟨h.pc_lt, h.i_lt, h.stack⟩
    · exact h
  · rw [he]
    exact ⟨h.pc_lt, h.i_lt, h.stack⟩
  all_goals
    have hc : cpu.countCycle.WellFormed := ⟨h.pc_lt, h.i_lt, h.stack⟩
    have hd := execute_wellFormed hc host (Instruction.inRange_of_decode hi)
    rw [he]
    exact ⟨hd.pc_lt, hd.i_lt, hd.stack⟩

end Cpu

end Chip8
