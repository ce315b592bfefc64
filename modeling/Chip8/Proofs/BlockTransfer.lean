import Chip8.Proofs.Footprint

/-! Blocks between registers and memory. One instruction stores the first registers from `I` on and one
loads them from there, both over the end of memory if need be; and the digits of a register that
are stored by a third one are loaded in the same way. Whatever is stored is loaded again, wherever
`I` points to. -/

namespace Chip8

namespace Registers

/-- Registers before those that are loaded keep their values. -/
theorem get_load_of_lt (v : Registers) {s r : Nat} {bytes : List UInt8} (h : r < s) :
    (v.load s bytes).get r = v.get r := by
  induction bytes generalizing v s with
  | nil => rfl
  | cons b bs ih => rw [load, ih _ (by omega), get_set_of_ne _ (by omega)]

/-- Each byte comes into its register. -/
theorem get_load (v : Registers) {s k : Nat} {bytes : List UInt8} (hs : s + bytes.length ≤ 16)
    (hk : k < bytes.length) : (v.load s bytes).get (s + k) = bytes[k] := by
  induction bytes generalizing v s k with
  | nil => cases hk
  | cons b bs ih =>
    rw [List.length_cons] at hs hk
    cases k with
    | zero =>
      have hbefore : s + 0 < s + 1 := by omega
      rw [load, get_load_of_lt _ hbefore, get_set, if_pos ⟨rfl, by omega⟩, List.getElem_cons_zero]
    | succ k =>
      have hnext : s + (k + 1) = s + 1 + k := by omega
      rw [load, hnext, ih _ (by omega) (by omega), List.getElem_cons_succ]

theorem getElem_toList (v : Registers) {r : Nat} (h : r < v.toList.length) :
    v.toList[r] = v.get r := by
  have hr : r < 16 := by simpa [toList] using h
  simp [toList, get, hr]

end Registers

namespace Cpu

/-- Where `I` is after a block of the registers up to `x`, by the dialect. -/
def pastBlock (cpu : Cpu) (x : Nat) : Nat :=
  if cpu.flags.dialect.passBlocks then (cpu.i.toNat + x + 1) % 0x1000 else cpu.i.toNat

theorem toNat_passBlock (cpu : Cpu) (x : Nat) :
    (cpu.passBlock x).i.toNat = cpu.pastBlock x := by
  have hi := cpu.i.toNat_lt
  unfold passBlock pastBlock
  split
  · simp only [setIndex, UInt16.toNat_mod, UInt16.toNat_add, UInt16.toNat_ofNat', UInt16.reduceToNat]
    omega
  · rfl

/-! ### Storing -/

theorem length_bytesOf (cpu : Cpu) {i : Instruction} (hi : i.InRange) :
    (cpu.bytesOf i).length = i.stored := by
  cases i with
  | dmao x =>
    have hx : x ≤ 0xf := hi
    have hregisters : cpu.v.toList.length = 16 := by simp [Registers.toList]
    rw [bytesOf, Instruction.stored, List.length_take, hregisters]
    omega
  | _ => rfl

/-- Three digits below ten make up the byte. -/
theorem decimalDigits_value (b : UInt8) :
    (b / 100 % 10).toNat < 10 ∧ (b / 10 % 10).toNat < 10 ∧ (b % 10).toNat < 10 ∧
      100 * (b / 100 % 10).toNat + 10 * (b / 10 % 10).toNat + (b % 10).toNat = b.toNat := by
  have hb := b.toNat_lt
  simp only [UInt8.toNat_mod, UInt8.toNat_div, UInt8.reduceToNat]
  omega

variable {σ : Type} [Host σ]

/-- An instruction that stores has no fault, writes its bytes from `I` on, and no other cell. -/
theorem tick_stores {cpu : Cpu} (hp : cpu.flags.paused = false) {i : Instruction}
    (hi : i.InRange) (hw : cpu.wordAtPc.word = i.encode) (hs : 0 < i.stored) (host : σ) :
    let next := cpu.tick host
    (∀ e, next.result = .error e → e.isBreakpoint = true) ∧
      (∀ k (hk : k < (cpu.bytesOf i).length),
        next.cpu.memory.read ((cpu.i.toNat + k) % 0x1000) = (cpu.bytesOf i)[k]) ∧
      (∀ a < 0x1000, (∀ k < i.stored, a ≠ (cpu.i.toNat + k) % 0x1000) →
        next.cpu.memory.read a = cpu.memory.read a) ∧
      next.cpu.i = (cpu.countCycle.execute host i).cpu.i := by
  have hf : cpu.faultOf i = none := by
    cases i with
    | bcd | dmao => rfl
    | _ => cases hs
  have hroom : (cpu.bytesOf i).length ≤ 0x1000 := by
    rw [cpu.length_bytesOf hi]
    cases i with
    | dmao x =>
      have hx : x ≤ 0xf := hi
      rw [Instruction.stored]
      omega
    | _ => simp [Instruction.stored]
  obtain ⟨paused, result, ht, hresult⟩ := tick_of_decode host hp (decode_fetch hi hw) hf
  have hm : (cpu.tick host).cpu.memory = cpu.memory.load cpu.i.toNat (cpu.bytesOf i) := by
    rw [ht]
    exact cpu.countCycle.execute_load host i
  refine ⟨by rwa [ht], fun k hk => ?_, fun a ha hfree => ?_, by rw [ht]⟩
  · rw [hm, Memory.read_mod, Memory.read_load hroom hk]
  · rw [ht]
    apply cpu.countCycle.execute_read host
    intro k hk
    rw [Nat.mod_eq_of_lt ha]
    exact hfree k hk

/-- The registers up to `x` are stored from `I` on, and nothing is written elsewhere. -/
theorem tick_storeBlock {cpu : Cpu} (hp : cpu.flags.paused = false) {x : Nat} (hx : x < 16)
    (hw : cpu.wordAtPc.word = Instruction.wordOfByte 0xf x 0x55) (host : σ) :
    let cell k := (cpu.i.toNat + k) % 0x1000
    let next := cpu.tick host
    (∀ e, next.result = .error e → e.isBreakpoint = true) ∧
      (∀ k ≤ x, next.cpu.memory.read (cell k) = cpu.v.get k) ∧
      (∀ a < 0x1000, (∀ k ≤ x, a ≠ cell k) → next.cpu.memory.read a = cpu.memory.read a) ∧
      next.cpu.i.toNat = cpu.pastBlock x := by
  intro cell next
  have hi : (Instruction.dmao x).InRange := Nat.le_of_lt_succ hx
  obtain ⟨hresult, hbytes, hfree, hindex⟩ := tick_stores hp hi hw (Nat.succ_pos x) host
  refine ⟨hresult, fun k hk => ?_, fun a ha h => ?_, ?_⟩
  · have hlen : k < (cpu.bytesOf (.dmao x)).length := by
      rw [cpu.length_bytesOf hi]
      exact Nat.lt_succ_of_le hk
    rw [hbytes k hlen]
    simp only [bytesOf, List.getElem_take, Registers.getElem_toList]
  · apply hfree a ha
    intro k hk
    exact h k (Nat.le_of_lt_succ hk)
  · rw [hindex]
    exact toNat_passBlock _ x

/-- The digits of a register are stored in the three cells from `I` on, and `I` stays. -/
theorem tick_storeDecimal {cpu : Cpu} (hp : cpu.flags.paused = false) {x : Nat} (hx : x < 16)
    (hw : cpu.wordAtPc.word = Instruction.wordOfByte 0xf x 0x33) (host : σ) :
    let cell k := (cpu.i.toNat + k) % 0x1000
    let next := cpu.tick host
    let digit k := (next.cpu.memory.read (cell k)).toNat
    (∀ e, next.result = .error e → e.isBreakpoint = true) ∧
      (∀ a < 0x1000, (∀ k < 3, a ≠ cell k) → next.cpu.memory.read a = cpu.memory.read a) ∧
      next.cpu.i = cpu.i ∧ digit 0 < 10 ∧ digit 1 < 10 ∧ digit 2 < 10 ∧
      100 * digit 0 + 10 * digit 1 + digit 2 = (cpu.v.get x).toNat := by
  intro cell next digit
  let b := cpu.v.get x
  have hi : (Instruction.bcd x).InRange := Nat.le_of_lt_succ hx
  obtain ⟨hresult, hbytes, hfree, hindex⟩ := tick_stores hp hi hw (Nat.succ_pos 2) host
  have hdigit (k : Nat) (hk : k < (decimalDigits b).length) :
      digit k = (decimalDigits b)[k].toNat :=
    congrArg UInt8.toNat (hbytes k hk)
  have hundreds : digit 0 = (b / 100 % 10).toNat := hdigit 0 (Nat.succ_pos 2)
  have tens : digit 1 = (b / 10 % 10).toNat := hdigit 1 (by simp [decimalDigits])
  have ones : digit 2 = (b % 10).toNat := hdigit 2 (Nat.lt_succ_self 2)
  rw [hundreds, tens, ones]
  exact ⟨hresult, hfree, hindex, decimalDigits_value b⟩

/-! ### Loading -/

/-- The registers up to `x` are loaded from `I` on, and nothing else is changed but `I`. -/
theorem tick_loadBlock {cpu : Cpu} (hp : cpu.flags.paused = false) {x : Nat} (hx : x < 16)
    (hw : cpu.wordAtPc.word = Instruction.wordOfByte 0xf x 0x65) (host : σ) :
    let next := cpu.tick host
    (∀ e, next.result = .error e → e.isBreakpoint = true) ∧
      (∀ k ≤ x, next.cpu.v.get k = cpu.memory.read ((cpu.i.toNat + k) % 0x1000)) ∧
      (∀ r, x < r → next.cpu.v.get r = cpu.v.get r) ∧ next.cpu.memory = cpu.memory ∧
      next.cpu.i.toNat = cpu.pastBlock x := by
  have hi : (Instruction.dmai x).InRange := Nat.le_of_lt_succ hx
  obtain ⟨paused, result, ht, hresult⟩ := tick_of_decode host hp (decode_fetch hi hw) rfl
  have hv : (cpu.tick host).cpu.v = cpu.v.load 0 (cpu.memory.readBytes cpu.i.toNat (x + 1)) := by
    rw [ht]
    simp only [execute, loadBlock, Executed.done]
    rw [passBlock_eq]
    rfl
  refine ⟨by rwa [ht], fun k hk => ?_, fun r hr => ?_, ?_, ?_⟩
  · have hlen : k < (cpu.memory.readBytes cpu.i.toNat (x + 1)).length := by
      rw [Memory.length_readBytes]
      omega
    have hget := cpu.v.get_load (s := 0) (by rw [Memory.length_readBytes]; omega) hlen
    rw [Nat.zero_add] at hget
    rw [hv, hget, Memory.read_mod]
    simp [Memory.readBytes]
  · rw [hv, Registers.get_load_of_le]
    rw [Memory.length_readBytes]
    omega
  · rw [ht]
    exact cpu.countCycle.execute_memory host rfl
  · rw [ht]
    exact toNat_passBlock _ x

/-! ### The way there and back -/

/-- A block of registers is stored in the cells from `I` on, over the end of memory if need be, and
no other cell; where these cells are unchanged and `I` points there, it is loaded again, into
registers with whatever values. Loading leaves the further registers and memory alone, and both move
`I` past the block where the dialect asks for it. The digits of a register are stored in three cells,
and loaded by the same instruction. -/
theorem tick_blocks_inverse {cpu : Cpu} (hp : cpu.flags.paused = false) {x : Nat} (hx : x < 16)
    (host : σ) :
    let cell k := (cpu.i.toNat + k) % 0x1000
    let next := cpu.tick host
    (cpu.wordAtPc.word = Instruction.wordOfByte 0xf x 0x55 →
      (∀ e, next.result = .error e → e.isBreakpoint = true) ∧
      (∀ k ≤ x, next.cpu.memory.read (cell k) = cpu.v.get k) ∧
      (∀ a < 0x1000, (∀ k ≤ x, a ≠ cell k) → next.cpu.memory.read a = cpu.memory.read a) ∧
      next.cpu.i.toNat = cpu.pastBlock x ∧
      ∀ (later : Cpu) (host' : σ), later.flags.paused = false →
        later.wordAtPc.word = Instruction.wordOfByte 0xf x 0x65 → later.i = cpu.i →
        (∀ k ≤ x, later.memory.read (cell k) = next.cpu.memory.read (cell k)) →
          let loaded := later.tick host'
          (∀ e, loaded.result = .error e → e.isBreakpoint = true) ∧
          (∀ k ≤ x, loaded.cpu.v.get k = cpu.v.get k) ∧
          (∀ r, x < r → loaded.cpu.v.get r = later.v.get r) ∧
          loaded.cpu.memory = later.memory ∧ loaded.cpu.i.toNat = later.pastBlock x) ∧
    (cpu.wordAtPc.word = Instruction.wordOfByte 0xf x 0x33 →
      (∀ e, next.result = .error e → e.isBreakpoint = true) ∧
      (∀ a < 0x1000, (∀ k < 3, a ≠ cell k) → next.cpu.memory.read a = cpu.memory.read a) ∧
      next.cpu.i = cpu.i ∧
      ∀ (later : Cpu) (host' : σ), later.flags.paused = false →
        later.wordAtPc.word = Instruction.wordOfByte 0xf 2 0x65 → later.i = cpu.i →
        (∀ k < 3, later.memory.read (cell k) = next.cpu.memory.read (cell k)) →
          let loaded := later.tick host'
          let digit r := (loaded.cpu.v.get r).toNat
          (∀ e, loaded.result = .error e → e.isBreakpoint = true) ∧
          digit 0 < 10 ∧ digit 1 < 10 ∧ digit 2 < 10 ∧
          100 * digit 0 + 10 * digit 1 + digit 2 = (cpu.v.get x).toNat) := by
  intro cell next
  constructor
  · intro hw
    obtain ⟨hresult, hcells, hfree, hindex⟩ := tick_storeBlock hp hx hw host
    refine ⟨hresult, hcells, hfree, hindex, ?_⟩
    intro later host' hp' hw' hi' hsame loaded
    obtain ⟨hresult', hloaded, hrest, hmemory, hindex'⟩ := tick_loadBlock hp' hx hw' host'
    refine ⟨hresult', fun k hk => ?_, hrest, hmemory, hindex'⟩
    rw [hloaded k hk, hi']
    exact (hsame k hk).trans (hcells k hk)
  · intro hw
    obtain ⟨hresult, hfree, hindex, hdigits⟩ := tick_storeDecimal hp hx hw host
    refine ⟨hresult, hfree, hindex, ?_⟩
    intro later host' hp' hw' hi' hsame loaded digit
    obtain ⟨hresult', hloaded, -⟩ := tick_loadBlock hp' (by decide) hw' host'
    have hdigit (k : Nat) (hk : k < 3) : digit k = (next.cpu.memory.read (cell k)).toNat := by
      simp only [digit, loaded]
      rw [hloaded k (Nat.le_of_lt_succ hk), hi']
      exact congrArg UInt8.toNat (hsame k hk)
    rw [hdigit 0 (by decide), hdigit 1 (by decide), hdigit 2 (by decide)]
    exact ⟨hresult', hdigits⟩

/-- About to execute one word and then another, with `I` at the last cell but one. -/
def storingFirst (program : List UInt8) : Cpu :=
  let cpu := (initial.perform (Headless.seeded 0) (.load 0x200 program)).cpu
  { cpu with i := 0xffe, v := .ofList [7, 8, 255], flags.dialect := .uniform true }

/-- Three registers come back over the end of memory, and so do the digits of one of them. -/
theorem tick_blocks_inverse_wrapped :
    let host := Headless.seeded 0
    let block := storingFirst [0xf2, 0x55, 0xf2, 0x65]
    let digits := storingFirst [0xf2, 0x33, 0xf2, 0x65]
    let again (cpu : Cpu) : Cpu := { (cpu.tick host).cpu with v := .zero, i := 0xffe }
    (∀ k ≤ 2, ((again block).tick host).cpu.v.get k = block.v.get k) ∧
      ((again block).tick host).cpu.i.toNat = 1 ∧
      100 * (((again digits).tick host).cpu.v.get 0).toNat +
          10 * (((again digits).tick host).cpu.v.get 1).toNat +
          (((again digits).tick host).cpu.v.get 2).toNat = 255 := by
  intro host block digits again
  have hx : 2 < 16 := by decide
  have hp : block.flags.paused = false := rfl
  have hp' : digits.flags.paused = false := rfl
  obtain ⟨hblock, -⟩ := tick_blocks_inverse hp hx host
  obtain ⟨-, hdigits⟩ := tick_blocks_inverse hp' hx host
  obtain ⟨_, _, _, _, hloaded⟩ := hblock (by decide +kernel)
  obtain ⟨_, _, _, hvalue⟩ := hdigits (by decide +kernel)
  obtain ⟨_, hback, _, _, hindex⟩ := hloaded (again block) host (by decide +kernel)
    (by decide +kernel) rfl fun _ _ => rfl
  obtain ⟨_, _, _, _, hsum⟩ := hvalue (again digits) host (by decide +kernel)
    (by decide +kernel) rfl fun _ _ => rfl
  refine ⟨hback, ?_, hsum⟩
  rw [hindex]
  decide +kernel

end Cpu

end Chip8
