import Chip8.Headless
import Chip8.Proofs.Guarded.Basic
import Chip8.Proofs.Reachable

/-! No guard ever stops a machine that was only used as its owner may: on every reachable state, and
whatever memory holds, the guarded tick is the tick. -/

namespace Chip8

namespace Registers

theorem set_eq {v : Registers} {r : Nat} (h : r < 16) (b : UInt8) :
    v.set r b = ⟨v.cells.set r b⟩ := by
  simp [set, Vector.setIfInBounds, Vector.set, Array.setIfInBounds, h]

theorem load_append (v : Registers) (r : Nat) (bs cs : List UInt8) :
    v.load r (bs ++ cs) = (v.load r bs).load (r + bs.length) cs := by
  induction bs generalizing v r with
  | nil => rfl
  | cons b bs ih =>
    simp only [List.cons_append, load, ih, List.length_cons]
    congr 1
    omega

end Registers

namespace Memory

theorem load_append (m : Memory) (a : Nat) (bs cs : List UInt8) :
    m.load a (bs ++ cs) = (m.load a bs).load (a + bs.length) cs := by
  induction bs generalizing m a with
  | nil => rfl
  | cons b bs ih =>
    simp only [List.cons_append, load, ih, List.length_cons]
    congr 1
    omega

theorem readBytes_succ (m : Memory) (a n : Nat) :
    m.readBytes a (n + 1) = m.readBytes a n ++ [m.read (a + n)] := by
  simp [readBytes, List.range_succ]

end Memory

namespace Guarded

/-! ### Accesses -/

theorem register_eq {v : Registers} {r : Nat} (h : r < 16) : register v r = some (v.get r) := by
  simp [register, Registers.get, h]

theorem setRegister_eq {v : Registers} {r : Nat} (h : r < 16) (b : UInt8) :
    setRegister v r b = some (v.set r b) := by
  rw [setRegister, dif_pos h, Registers.set_eq h]

theorem slot_eq {s : CallStack} {d : Nat} (h : d < 16) :
    slot s d = some (s.slots[d]?.getD 0) := by
  simp [slot, h]

theorem setSlot_eq {s : CallStack} {d : Nat} (h : d < 16) (a : UInt16) :
    setSlot s d a = some { s with slots := s.slots.setIfInBounds d a } := by
  rw [setSlot, dif_pos h]
  simp [Vector.setIfInBounds, Vector.set, Array.setIfInBounds, h]

theorem cell_eq (m : Memory) (a : Nat) : cell m a = some (m.read a) := by
  have h : a % 0x1000 < 0x1000 := Nat.mod_lt a (by decide)
  simp [cell, Memory.read, h]

theorem setCell_eq (m : Memory) (a : Nat) (b : UInt8) : setCell m a b = some (m.write a b) :=
  dif_pos (Nat.mod_lt a (by decide))

theorem word_eq (m : Memory) (a : Nat) : word m a = some (m.readWord a) := by
  simp [word, cell_eq, Memory.readWord]

/-! ### Numbers -/

theorem increment_eq {n : Nat} (h : n < 16) : increment n = some (n + 1) := if_pos (by omega)

theorem decrement_succ (n : Nat) : decrement (n + 1) = some n := if_pos (Nat.succ_pos n)

theorem sum_eq {a b : UInt16} (h : a.toNat + b.toNat < 0x10000) : sum a b = some (a + b) := if_pos h

theorem product_eq {a b : UInt16} (h : a.toNat * b.toNat < 0x10000) :
    product a b = some (a * b) :=
  if_pos h

theorem current_advance {cpu : Cpu} (h : cpu.pc < 0x1000) : current cpu.advance = cpu.pc := by
  have hp : cpu.pc.toNat < 0x1000 := UInt16.lt_iff_toNat_lt.mp h
  apply UInt16.toNat_inj.mp
  simp [current, Cpu.advance, Cpu.following, UInt16.toNat_sub]
  omega

/-! ### Parts of instructions -/

theorem combine_eq {v : Registers} {x y : Nat} (hx : x < 16) (hy : y < 16)
    (f : UInt8 → UInt8 → UInt8) :
    combine v x y f = some (v.set x (f (v.get x) (v.get y))) := by
  simp [combine, register_eq hx, register_eq hy, setRegister_eq hx]

theorem resetFlag_eq (v : Registers) (d : Dialect) : resetFlag v d = some (v.resetFlag d) := by
  unfold resetFlag Registers.resetFlag
  split
  · exact setRegister_eq (by decide) 0
  · rfl

theorem combineFlag_eq {v : Registers} {x y : Nat} (hx : x < 16) (hy : y < 16)
    (f flag : UInt8 → UInt8 → UInt8) :
    combineFlag v x y f flag = some ((v.set x (f (v.get x) (v.get y))).set Registers.flag
      (flag (v.get x) (v.get y))) := by
  have hf : Registers.flag < 16 := by decide
  simp [combineFlag, register_eq hx, register_eq hy, setRegister_eq hx, setRegister_eq hf]

theorem register_shifted {v : Registers} {d : Dialect} {x y : Nat} (hx : x < 16) (hy : y < 16) :
    register v (shifted d x y) = some (v.shiftOperand d x y) := by
  unfold shifted Registers.shiftOperand
  split
  · exact register_eq hy
  · exact register_eq hx

theorem sprite_eq (m : Memory) (a : Nat) {n : Nat} (h : n ≤ 16) :
    sprite m a n = some (m.readBytes a n) := by
  simp only [sprite, if_pos h, cell_eq]
  exact List.mapM_pure

theorem storeDigits_eq (m : Memory) (a : Nat) (b : UInt8) :
    storeDigits m a b = some (m.load a (Cpu.decimalDigits b)) := by
  simp [storeDigits, setCell_eq, Cpu.decimalDigits, Memory.load]

theorem storeBlock_foldl (v : Registers) (m : Memory) (a : Nat) {n : Nat} (h : n ≤ 16) :
    (List.range n).foldlM (fun m r => do setCell m (a + r) (← register v r)) m =
      some (m.load a (v.toList.take n)) := by
  induction n with
  | zero => rfl
  | succ n ih =>
    have hn : n < 16 := by omega
    have hl : n < v.toList.length := by simp [Registers.toList, hn]
    have hg : v.toList[n] = v.get n := by simp [Registers.toList, Registers.get, hn]
    rw [List.range_succ, List.foldlM_append, ih (by omega), List.take_succ_eq_append_getElem hl,
      Memory.load_append, hg]
    simp [register_eq hn, setCell_eq, Memory.load, Registers.toList,
      Nat.min_eq_left (Nat.le_of_lt hn)]

theorem loadBlock_foldl (v : Registers) (m : Memory) (a : Nat) {n : Nat} (h : n ≤ 16) :
    (List.range n).foldlM (fun v r => do setRegister v r (← cell m (a + r))) v =
      some (v.load 0 (m.readBytes a n)) := by
  induction n with
  | zero => rfl
  | succ n ih =>
    have hn : n < 16 := by omega
    rw [List.range_succ, List.foldlM_append, ih (by omega), Memory.readBytes_succ,
      Registers.load_append, Memory.length_readBytes]
    simp [cell_eq, setRegister_eq hn, Registers.load]

theorem storeBlock_eq (v : Registers) (m : Memory) (a : Nat) {x : Nat} (h : x < 16) :
    storeBlock v m a x = some (m.load a (v.toList.take (x + 1))) :=
  storeBlock_foldl v m a h

theorem loadBlock_eq (v : Registers) (m : Memory) (a : Nat) {x : Nat} (h : x < 16) :
    loadBlock v m a x = some (v.load 0 (m.readBytes a (x + 1))) :=
  loadBlock_foldl v m a h

theorem passBlock_eq {cpu : Cpu} {x : Nat} (hx : x < 16) :
    passBlock cpu x = some (cpu.passBlock x) := by
  have hs : sum (UInt16.ofNat x) 1 = some (UInt16.ofNat x + 1) := by
    refine sum_eq ?_
    simp
    omega
  unfold passBlock Cpu.passBlock
  split
  · simp [hs, Cpu.setIndex, UInt16.add_assoc]
  · rfl

/-- The glyph of any byte begins where sixteen bits can reach. -/
theorem glyph_eq (b : UInt8) :
    product Memory.glyphSize b.toUInt16 = some (Memory.glyphSize * b.toUInt16) ∧
      sum Memory.fontStart (Memory.glyphSize * b.toUInt16) =
        some (Memory.fontStart + Memory.glyphSize * b.toUInt16) := by
  have hb := b.toNat_lt
  constructor
  · apply product_eq
    simp [Memory.glyphSize]
    omega
  · apply sum_eq
    simp [Memory.fontStart, Memory.glyphSize]
    omega

/-! ### Instructions and ticks -/

/-- A fault found after the program counter was moved on. -/
def ahead {σ : Type} (e : Executed σ) : Executed σ :=
  match e with
  | ⟨cpu, host, some fault⟩ => ⟨cpu.advance, host, some fault⟩
  | ⟨cpu, host, none⟩ => ⟨cpu, host, none⟩

variable {σ : Type}

theorem ahead_of_no_fault {e : Executed σ} (h : e.fault = none) : ahead e = e := by
  obtain ⟨cpu, host, _⟩ := e
  obtain rfl := h
  rfl

theorem checkBreakpoint_eq (cpu : Cpu) (host : σ) (trace : Array String) :
    checkBreakpoint cpu host trace = some (cpu.checkBreakpoint host trace) := by
  unfold checkBreakpoint Cpu.checkBreakpoint
  split
  · simp [word_eq, Cpu.fetch]
  · rfl

variable [Host σ]

theorem execute_ret {cpu : Cpu} (h : cpu.WellFormed) (host : σ) :
    execute cpu.advance host .ret = some (ahead (cpu.execute host .ret)) := by
  have hc := current_advance h.pc_lt
  cases hd : cpu.stack.depth with
  | zero => simp [execute, hd, hc, Cpu.execute, Cpu.returnFrom_empty host hd, ahead]
  | succ d =>
    have hle := h.stack.depth_le
    have hs : slot cpu.stack d = some (cpu.stack.slots[d]?.getD 0) := slot_eq (by omega)
    rw [Cpu.execute, Cpu.returnFrom_succ host hd]
    simp only [execute, Cpu.advance_stack, hd, Nat.succ_ne_zero, if_false, decrement_succ, hs,
      Option.bind_eq_bind, Option.bind_some]
    rfl

theorem execute_call {cpu : Cpu} (h : cpu.WellFormed) (host : σ) (a : UInt16) :
    execute cpu.advance host (.call a) = some (ahead (cpu.execute host (.call a))) := by
  have hc := current_advance h.pc_lt
  rcases Nat.lt_or_ge cpu.stack.depth CallStack.capacity with hd | hd
  · rw [Cpu.execute, Cpu.call_room host a hd]
    simp only [execute, Cpu.advance_stack, Nat.not_le.mpr hd, if_false, setSlot_eq hd,
      increment_eq hd, Option.bind_eq_bind, Option.bind_some]
    rfl
  · simp [execute, hd, hc, Cpu.execute, Cpu.call_full host a hd, ahead]

theorem execute_sek {x : Nat} (cpu : Cpu) (host : σ) (hx : x < 16) :
    execute cpu.advance host (.sek x) = some (cpu.skipOnKey host x true) := by
  simp only [execute, Cpu.advance_v, register_eq hx, Option.bind_eq_bind, Option.bind_some,
    Cpu.skipOnKey, beq_true]
  rfl

theorem execute_snek {x : Nat} (cpu : Cpu) (host : σ) (hx : x < 16) :
    execute cpu.advance host (.snek x) = some (cpu.skipOnKey host x false) := by
  simp only [execute, Cpu.advance_v, register_eq hx, Option.bind_eq_bind, Option.bind_some,
    Cpu.skipOnKey, beq_false]
  rfl

/-- An instruction comes to the same with the program counter already behind it, but for where a
fault finds it. -/
theorem execute_advance {cpu : Cpu} (h : cpu.WellFormed) (host : σ) {i : Instruction}
    (hi : i.InRange) : execute cpu.advance host i = some (ahead (cpu.execute host i)) := by
  have hf : Registers.flag < 16 := by decide
  have hc := current_advance h.pc_lt
  cases i with
  | cls => rfl
  | ret => exact execute_ret h host
  | call a => exact execute_call h host a
  | jmp a | movI a => rfl
  | seb x b | sneb x b =>
    have hx : x < 16 := Nat.lt_succ_of_le hi
    simp only [execute, register_eq hx, Option.bind_eq_bind, Option.bind_some]
    rfl
  | se x y | sne x y =>
    obtain ⟨hx, hy⟩ : x < 16 ∧ y < 16 := ⟨Nat.lt_succ_of_le hi.1, Nat.lt_succ_of_le hi.2⟩
    simp only [execute, register_eq hx, register_eq hy, Option.bind_eq_bind,
      Option.bind_some]
    rfl
  | movb x b | addb x b =>
    have hx : x < 16 := Nat.lt_succ_of_le hi
    simp only [execute, register_eq hx, setRegister_eq hx, Option.bind_eq_bind, Option.bind_some]
    rfl
  | mov x y =>
    obtain ⟨hx, hy⟩ : x < 16 ∧ y < 16 := ⟨Nat.lt_succ_of_le hi.1, Nat.lt_succ_of_le hi.2⟩
    simp only [execute, register_eq hy, setRegister_eq hx, Option.bind_eq_bind, Option.bind_some]
    rfl
  | or x y | and x y | xor x y =>
    obtain ⟨hx, hy⟩ : x < 16 ∧ y < 16 := ⟨Nat.lt_succ_of_le hi.1, Nat.lt_succ_of_le hi.2⟩
    simp only [execute, combine_eq hx hy, resetFlag_eq, Option.bind_eq_bind, Option.bind_some]
    rfl
  | add x y | sub x y | bsub x y =>
    obtain ⟨hx, hy⟩ : x < 16 ∧ y < 16 := ⟨Nat.lt_succ_of_le hi.1, Nat.lt_succ_of_le hi.2⟩
    simp only [execute, combineFlag_eq hx hy, Option.bind_eq_bind, Option.bind_some]
    rfl
  | shr x y | shl x y =>
    obtain ⟨hx, hy⟩ : x < 16 ∧ y < 16 := ⟨Nat.lt_succ_of_le hi.1, Nat.lt_succ_of_le hi.2⟩
    simp only [execute, register_shifted hx hy, setRegister_eq hx, setRegister_eq hf,
      Option.bind_eq_bind, Option.bind_some]
    rfl
  | jmpr a =>
    have h0 : 0 < 16 := by decide
    simp only [execute, register_eq h0, Option.bind_eq_bind, Option.bind_some]
    rfl
  | rand x mask =>
    have hx : x < 16 := Nat.lt_succ_of_le hi
    simp only [execute, setRegister_eq hx, Option.bind_eq_bind, Option.bind_some]
    rfl
  | draw x y n =>
    obtain ⟨hx, hy⟩ : x < 16 ∧ y < 16 := ⟨Nat.lt_succ_of_le hi.1, Nat.lt_succ_of_le hi.2.1⟩
    have hn : n.toNat ≤ 16 := Nat.le_succ_of_le hi.2.2
    simp only [execute, sprite_eq _ _ hn, register_eq hx, register_eq hy, setRegister_eq hf,
      Option.bind_eq_bind, Option.bind_some]
    rfl
  | sek x =>
    have hx : x < 16 := Nat.lt_succ_of_le hi
    rw [execute_sek cpu host hx, ahead_of_no_fault (cpu.execute_fault host (.sek x))]
    rfl
  | snek x =>
    have hx : x < 16 := Nat.lt_succ_of_le hi
    rw [execute_snek cpu host hx, ahead_of_no_fault (cpu.execute_fault host (.snek x))]
    rfl
  | getdt x =>
    have hx : x < 16 := Nat.lt_succ_of_le hi
    simp only [execute, setRegister_eq hx, Option.bind_eq_bind, Option.bind_some]
    rfl
  | waitk x =>
    have hx : x < 16 := Nat.lt_succ_of_le hi
    simp only [execute, Cpu.execute, Cpu.waitForKey, hc, setRegister_eq hx]
    split <;> rfl
  | setdt x | movst x | addI x =>
    have hx : x < 16 := Nat.lt_succ_of_le hi
    simp only [execute, register_eq hx, Option.bind_eq_bind, Option.bind_some]
    rfl
  | font x =>
    have hx : x < 16 := Nat.lt_succ_of_le hi
    obtain ⟨hp, hs⟩ := glyph_eq (cpu.v.get x)
    simp only [execute, Cpu.advance_v, register_eq hx, hp, hs, Option.bind_eq_bind,
      Option.bind_some]
    rfl
  | bcd x =>
    have hx : x < 16 := Nat.lt_succ_of_le hi
    simp only [execute, register_eq hx, storeDigits_eq, Option.bind_eq_bind, Option.bind_some]
    rfl
  | dmao x =>
    have hx : x < 16 := Nat.lt_succ_of_le hi
    simp only [execute, storeBlock_eq _ _ _ hx, passBlock_eq hx, Option.bind_eq_bind,
      Option.bind_some]
    rfl
  | dmai x =>
    have hx : x < 16 := Nat.lt_succ_of_le hi
    simp only [execute, loadBlock_eq _ _ _ hx, passBlock_eq hx, Option.bind_eq_bind,
      Option.bind_some]
    rfl

theorem executeWord_eq {cpu : Cpu} (h : cpu.WellFormed) (host : σ) (w : UInt16) :
    executeWord cpu host w = some (cpu.executeWord host w) := by
  cases hi : Instruction.decode ⟨w⟩ with
  | none => simp [executeWord, Cpu.executeWord, hi]
  | some i =>
    have he := execute_advance h host (Instruction.inRange_of_decode hi)
    have hf := cpu.execute_fault host i
    cases hp : cpu.faultOf i with
    | some e =>
      rw [Cpu.execute_of_fault host hp] at he
      simp only [executeWord, Cpu.executeWord, hi, he, Cpu.execute_of_fault host hp, ahead,
        Option.bind_eq_bind, Option.bind_some]
      -- only the program counter was moved, and it is moved back
      rfl
    | none =>
      generalize hd : cpu.execute host i = done at he hf
      obtain ⟨after, host', fault⟩ := done
      obtain rfl : fault = none := hf.trans hp
      simp only [executeWord, Cpu.executeWord, hi, he, hd, ahead, Option.bind_eq_bind,
        Option.bind_some]
      rfl

theorem step_eq {cpu : Cpu} (h : cpu.WellFormed) (host : σ) :
    step cpu host = some (cpu.step host) := by
  have hc : cpu.countCycle.WellFormed := h.of_eq rfl rfl rfl
  simp only [step, word_eq, Option.bind_eq_bind, Option.bind_some, executeWord_eq hc, Cpu.step,
    Cpu.fetch]
  rcases cpu.countCycle.executeWord host (cpu.memory.readWord cpu.pc.toNat) with
    ⟨done, host', _ | fault⟩
  · exact checkBreakpoint_eq done host' _
  · rfl

theorem tick_eq {cpu : Cpu} (h : cpu.WellFormed) (host : σ) :
    tick cpu host = some (cpu.tick host) := by
  unfold tick Cpu.tick
  split
  · rfl
  · exact step_eq h host

end Guarded

namespace Cpu

/-- On every reachable state all addresses are in range, and so no tick from there runs past the end
of a table or out of the width of a number, whatever memory holds. -/
theorem Reachable.inBounds {cpu : Cpu} (h : Reachable cpu) :
    (cpu.pc < 0x1000 ∧ cpu.i < 0x1000 ∧ cpu.stack.depth ≤ 16 ∧
      ∀ (d : Nat) (hd : d < 16), cpu.stack.slots[d] < 0x1000) ∧
    ∀ {σ : Type} [Host σ] (memory : Memory) (host : σ),
      Guarded.tick { cpu with memory } host = some (({ cpu with memory } : Cpu).tick host) := by
  have hw := h.wellFormed
  refine ⟨⟨hw.pc_lt, hw.i_lt, hw.stack.depth_le, hw.stack.slots_lt⟩, ?_⟩
  intro σ _ memory host
  have hm : { cpu with memory }.WellFormed := hw.of_eq rfl rfl rfl
  exact Guarded.tick_eq hm host

/-- A subroutine that calls itself stays in range, and so does whatever replaces it. -/
theorem inBounds_recursion :
    let host := Headless.seeded 0
    let cpu := ((initial.perform host (.writeWord 0x200 0x2200)).cpu.perform host (.frame 9)).cpu
    cpu.stack.depth ≤ 16 ∧ cpu.pc < 0x1000 ∧ ∀ memory,
      Guarded.tick { cpu with memory } host = some (({ cpu with memory } : Cpu).tick host) := by
  intro host cpu
  have hr : Reachable cpu := .perform host _ (.perform host _ .initial)
  obtain ⟨⟨hpc, _, hd, _⟩, ht⟩ := Reachable.inBounds hr
  exact ⟨hd, hpc, fun memory => ht memory host⟩

end Cpu

end Chip8
