import Chip8.Headless
import Chip8.Proofs.Encoding
import Chip8.Proofs.Fault

/-! The operations on two registers, against a table of their results in plain numbers. The table
knows the operands only as they were before, and the registers follow it also where the first, the
second and the flag register are not three different ones. -/

namespace Chip8

namespace Registers

/-- What an operation puts into its first register, and then into the flag register if it writes
there, too. -/
structure Outcome where
  value : Nat
  flag? : Option Nat
  deriving DecidableEq

/-- The operations by their digit, for a first register that holds `a` and a second that holds
`b`. -/
def outcome? (d : Dialect) (a b : Nat) : (n : Nat) → Option Outcome
  | 0x0 => some ⟨b, none⟩
  | 0x1 => some ⟨a ||| b, cleared⟩
  | 0x2 => some ⟨a &&& b, cleared⟩
  | 0x3 => some ⟨a ^^^ b, cleared⟩
  | 0x4 => some ⟨(a + b) % 0x100, some (if 0xff < a + b then 1 else 0)⟩
  | 0x5 => some ⟨(0x100 + a - b) % 0x100, some (if b ≤ a then 1 else 0)⟩
  | 0x6 => some ⟨shifted / 2, some (shifted % 2)⟩
  | 0x7 => some ⟨(0x100 + b - a) % 0x100, some (if a ≤ b then 1 else 0)⟩
  | 0xe => some ⟨2 * shifted % 0x100, some (shifted / 0x80)⟩
  | _ => none
where
  cleared := if d.clearFlag then some 0 else none
  shifted := if d.shiftFromY then b else a

/-- What a register holds afterwards. The flag comes last, and wins. -/
def Outcome.at (o : Outcome) (v : Registers) (x r : Nat) : Nat :=
  let kept := if r = x then o.value else (v.get r).toNat
  if r = flag then o.flag?.getD kept else kept

variable {v : Registers} {d : Dialect} {x y r : Nat}

theorem get_set_at (hr : r < 16) (b : UInt8) :
    ((v.set x b).get r).toNat = Outcome.at ⟨b.toNat, none⟩ v x r := by
  rw [get_set, Outcome.at, Option.getD_none, ite_self]
  by_cases hx : r = x
  · rw [if_pos ⟨hx.symm, by omega⟩, if_pos hx]
  · rw [if_neg (fun h => hx h.1.symm), if_neg hx]

theorem get_setFlag_at (hr : r < 16) (b f : UInt8) :
    (((v.set x b).set flag f).get r).toNat = Outcome.at ⟨b.toNat, some f.toNat⟩ v x r := by
  rw [get_set, Outcome.at, Option.getD_some]
  by_cases hf : r = flag
  · rw [if_pos ⟨hf.symm, by decide⟩, if_pos hf]
  · rw [if_neg (fun h => hf h.1.symm), if_neg hf, get_set_at hr, Outcome.at, Option.getD_none,
      ite_self]

theorem get_resetFlag_at (hr : r < 16) (b : UInt8) :
    (((v.set x b).resetFlag d).get r).toNat =
      Outcome.at ⟨b.toNat, if d.clearFlag then some 0 else none⟩ v x r := by
  unfold resetFlag
  split
  · exact get_setFlag_at hr b 0
  · exact get_set_at hr b

theorem toNat_shiftOperand :
    (v.shiftOperand d x y).toNat = outcome?.shifted d (v.get x).toNat (v.get y).toNat := by
  unfold shiftOperand outcome?.shifted
  split <;> rfl

theorem get_setFlag_truth (hr : r < 16) (b : UInt8) {p q : Prop} [Decidable p] [Decidable q]
    (h : p ↔ q) :
    (((v.set x b).setFlag (decide p)).get r).toNat =
      Outcome.at ⟨b.toNat, some (if q then 1 else 0)⟩ v x r := by
  rw [setFlag, get_setFlag_at hr]
  by_cases hq : q
  · rw [if_pos hq, decide_eq_true (h.mpr hq)]
    rfl
  · rw [if_neg hq, decide_eq_false (mt h.mp hq)]
    rfl

theorem toNat_sub (a b : UInt8) : (a - b).toNat = (0x100 + a.toNat - b.toNat) % 0x100 := by
  have hb := b.toNat_lt
  rw [UInt8.toNat_sub]
  omega

/-- The byte halved, and the bit that drops out. -/
theorem toNat_halved (s : UInt8) :
    (s >>> 1).toNat = s.toNat / 2 ∧ (s &&& 1).toNat = s.toNat % 2 := by
  constructor
  · rw [UInt8.toNat_shiftRight, Nat.shiftRight_eq_div_pow]
    rfl
  · rw [UInt8.toNat_and]
    exact Nat.and_one_is_mod _

/-- The byte doubled, and the bit that drops out. -/
theorem toNat_doubled (s : UInt8) :
    (s <<< 1).toNat = 2 * s.toNat % 0x100 ∧ (s >>> 7).toNat = s.toNat / 0x80 := by
  constructor
  · rw [UInt8.toNat_shiftLeft, Nat.shiftLeft_eq, Nat.mul_comm]
    rfl
  · rw [UInt8.toNat_shiftRight, Nat.shiftRight_eq_div_pow]
    rfl

end Registers

theorem Instruction.decode_wordOfRegisters {x y n : Nat} (hx : x ≤ 0xf) (hy : y ≤ 0xf)
    (hn : n ≤ 0xf) : decode ⟨wordOfRegisters 0x8 x y n⟩ = decodeRegisters x y n := by
  have hdigit : (UInt8.ofNat n).toNat = n := by
    rw [UInt8.toNat_ofNat']
    omega
  simp (disch := first | decide | assumption) only [decode, family_wordOfRegisters,
    x_wordOfRegisters, y_wordOfRegisters, nibble_wordOfRegisters, hdigit]

namespace Cpu

open Registers

variable {σ : Type} [Host σ]

/-- The registers follow the table. -/
theorem execute_outcome (cpu : Cpu) (host : σ) {x y n r : Nat} {i : Instruction} {o : Outcome}
    (hi : Instruction.decodeRegisters x y n = some i)
    (ho : outcome? cpu.flags.dialect (cpu.v.get x).toNat (cpu.v.get y).toNat n = some o)
    (hr : r < 16) : ((cpu.execute host i).cpu.v.get r).toNat = o.at cpu.v x r := by
  have hs := toNat_shiftOperand (v := cpu.v) (d := cpu.flags.dialect) (x := x) (y := y)
  unfold Instruction.decodeRegisters at hi
  split at hi
  case h_10 => cases hi
  all_goals
    obtain rfl := Option.some.inj hi
    obtain rfl := Option.some.inj ho
  case h_1 => exact get_set_at hr _
  case h_2 =>
    rw [← UInt8.toNat_or]
    exact get_resetFlag_at hr _
  case h_3 =>
    rw [← UInt8.toNat_and]
    exact get_resetFlag_at hr _
  case h_4 =>
    rw [← UInt8.toNat_xor]
    exact get_resetFlag_at hr _
  case h_5 => exact get_setFlag_truth hr _ Iff.rfl
  case h_6 =>
    rw [← toNat_sub]
    exact get_setFlag_truth hr _ UInt8.le_iff_toNat_le
  case h_7 =>
    obtain ⟨hvalue, hflag⟩ := toNat_halved (cpu.v.shiftOperand cpu.flags.dialect x y)
    rw [← hs, ← hvalue, ← hflag]
    exact get_setFlag_at hr _ _
  case h_8 =>
    rw [← toNat_sub]
    exact get_setFlag_truth hr _ UInt8.le_iff_toNat_le
  case h_9 =>
    obtain ⟨hvalue, hflag⟩ := toNat_doubled (cpu.v.shiftOperand cpu.flags.dialect x y)
    rw [← hs, ← hvalue, ← hflag]
    exact get_setFlag_at hr _ _

theorem outcome?_spec {d : Dialect} {a b n : Nat} {o : Outcome} (x y : Nat)
    (h : outcome? d a b n = some o) :
    n ≤ 0xf ∧
      ∃ i, Instruction.decodeRegisters x y n = some i ∧ ∀ cpu : Cpu, cpu.faultOf i = none := by
  unfold outcome? at h
  split at h
  case h_10 => cases h
  all_goals exact ⟨by decide, _, rfl, fun _ => rfl⟩

/-- A tick on one of the operations ends well or at a breakpoint, with every register as the table
has it. Where the flag register is not the first, sum and difference can be put together again from
their two parts. -/
theorem tick_outcome {cpu : Cpu} (hp : cpu.flags.paused = false) {x y n : Nat} {o : Outcome}
    (hx : x < 16) (hy : y < 16)
    (hw : cpu.wordAtPc.word = Instruction.wordOfRegisters 0x8 x y n)
    (ho : outcome? cpu.flags.dialect (cpu.v.get x).toNat (cpu.v.get y).toNat n = some o)
    (host : σ) :
    let next := cpu.tick host
    (∀ e, next.result = .error e → e.isBreakpoint = true) ∧
      (∀ r < 16, (next.cpu.v.get r).toNat = o.at cpu.v x r) ∧
      (x ≠ flag → n = 4 → (cpu.v.get x).toNat + (cpu.v.get y).toNat =
        (next.cpu.v.get x).toNat + 0x100 * (next.cpu.v.get flag).toNat) ∧
      (x ≠ flag → n = 5 → (cpu.v.get x).toNat + 0x100 * (1 - (next.cpu.v.get flag).toNat) =
        (cpu.v.get y).toNat + (next.cpu.v.get x).toNat) := by
  obtain ⟨hn, i, hi, hf⟩ := outcome?_spec x y ho
  have hd : Instruction.decode ⟨cpu.fetch⟩ = some i := by
    rw [fetch_eq, hw, Instruction.decode_wordOfRegisters (by omega) (by omega) hn, hi]
  obtain ⟨paused, result, ht, hresult⟩ := tick_of_decode host hp hd (hf cpu)
  rw [ht]
  have hat : ∀ r < 16, ((cpu.countCycle.execute host i).cpu.v.get r).toNat = o.at cpu.v x r :=
    fun r hr => cpu.countCycle.execute_outcome host hi ho hr
  have ha := (cpu.v.get x).toNat_lt
  have hb := (cpu.v.get y).toNat_lt
  refine ⟨hresult, hat, ?_, ?_⟩
  all_goals
    rintro hx' rfl
    obtain rfl := Option.some.inj ho
    rw [hat x hx, hat flag (by decide)]
    simp only [Outcome.at, if_neg hx', if_true, Option.getD_some]
    split <;> omega

/-- The flag register has the carry, and not the sum, also where it is both operands. -/
theorem tick_outcome_flag :
    let cpu := { (initial.perform (Headless.seeded 0) (.writeWord 0x200 0x8ff4)).cpu with
      v := Registers.zero.set flag 0x90 }
    cpu.flags.paused = false ∧ cpu.wordAtPc.word = Instruction.wordOfRegisters 0x8 flag flag 4 ∧
      ∀ host : Headless, ((cpu.tick host).cpu.v.get flag).toNat = 1 ∧
        ∀ r < 15, (cpu.tick host).cpu.v.get r = 0 := by
  intro cpu
  have hp : cpu.flags.paused = false := rfl
  have hw : cpu.wordAtPc.word = Instruction.wordOfRegisters 0x8 flag flag 4 := by decide +kernel
  refine ⟨hp, hw, fun host => ?_⟩
  have ho : outcome? cpu.flags.dialect (cpu.v.get flag).toNat (cpu.v.get flag).toNat 4 =
      some ⟨0x20, some 1⟩ := by decide +kernel
  obtain ⟨_, hat, _⟩ := tick_outcome hp (by decide) (by decide) hw ho host
  have hrest : ∀ r < 15, Outcome.at ⟨0x20, some 1⟩ cpu.v flag r = 0 := by decide +kernel
  refine ⟨hat flag (by decide), fun r hr => ?_⟩
  rw [← UInt8.toNat_inj, hat r (by omega)]
  exact hrest r hr

end Cpu

end Chip8
