import Chip8.Headless
import Chip8.Proofs.Panel
import Chip8.Proofs.Reachable

/-! Dialects are isolated. Machines of two dialects go the same way for as long as no instruction is
executed that tells the dialects apart: they answer alike, do the same to their hosts, and differ in
nothing but the dialect. -/

namespace Chip8

def Run.withDialect {σ : Type} (run : Run σ) (d : Dialect) : Run σ :=
  { run with cpu := run.cpu.withDialect d }

namespace Cpu

variable {cpu : Cpu} {d : Dialect}

theorem faultOf_withDialect (cpu : Cpu) (d : Dialect) (i : Instruction) :
    (cpu.withDialect d).faultOf i = cpu.faultOf i := by
  cases i <;> rfl

theorem pendingFault_withDialect (cpu : Cpu) (d : Dialect) :
    (cpu.withDialect d).pendingFault = cpu.pendingFault := by
  have hf : (cpu.withDialect d).fetch = cpu.fetch := rfl
  simp only [pendingFault, hf, faultOf_withDialect]
  rfl

variable {σ : Type} [Host σ]

theorem tick_withDialect (host : σ)
    (h : cpu.executed.any (cpu.flags.dialect.tellsApart d) = false) :
    (cpu.withDialect d).tick host = (cpu.tick host).withDialect d := by
  obtain ⟨hp, ht⟩ | ⟨e, hp, hf, ht⟩ | ⟨i, done, hp, hi, hf, rfl, hend⟩ := cpu.tick_cases host
  all_goals
    have hp' : (cpu.withDialect d).flags.paused = _ := hp
  · have hc : (cpu.withDialect d).flags.countPaused = cpu.flags.countPaused := rfl
    rw [ht, tick_paused host hp', hc]
    split <;> rfl
  · rw [ht, tick_running host hp', step_of_fault host ((pendingFault_withDialect cpu d).trans hf)]
    rfl
  · have hi' : Instruction.decode ⟨(cpu.withDialect d).fetch⟩ = some i := hi
    have hf' : (cpu.withDialect d).faultOf i = none := (faultOf_withDialect cpu d i).trans hf
    have hb := cpu.countCycle.execute_breakpoints host i
    rw [executed_of_decode hp hi hf] at h
    have he : (cpu.withDialect d).countCycle.execute host i = _ :=
      cpu.countCycle.execute_withDialect host h
    rw [tick_running host hp', step_of_decode host hi' hf', he]
    obtain ⟨hmem, ht⟩ | ⟨hmem, ht⟩ := hend
    · rw [ht]
      exact checkBreakpoint_miss _ _ (hb ▸ hmem)
    · rw [ht]
      exact checkBreakpoint_hit _ _ (hb ▸ hmem)

theorem tick_dialect (cpu : Cpu) (host : σ) :
    (cpu.tick host).cpu.flags.dialect = cpu.flags.dialect := by
  rw [tick_frame]

end Cpu

namespace Machine

variable {σ : Type} [Host σ]

theorem dialect_iterate (m : Machine σ) (n : Nat) :
    (next^[n] m).cpu.flags.dialect = m.cpu.flags.dialect := by
  induction n with
  | zero => rfl
  | succ n ih =>
    rw [Function.iterate_succ_apply']
    exact (Cpu.tick_dialect _ _).trans ih

/-- The next tick executes nothing that tells two dialects apart. -/
def Indifferent (m : Machine σ) (d e : Dialect) : Prop :=
  m.cpu.executed.any (d.tellsApart e) = false

instance (m : Machine σ) (d e : Dialect) : Decidable (m.Indifferent d e) :=
  inferInstanceAs (Decidable (_ = false))

theorem tick_indifferent {m : Machine σ} {d : Dialect} (k : Nat)
    (h : (next^[k] m).Indifferent m.cpu.flags.dialect d) :
    ((next^[k] m).cpu.withDialect d).tick (next^[k] m).host = (next^[k] m).tick.withDialect d := by
  apply Cpu.tick_withDialect
  rwa [dialect_iterate]

theorem iterate_withDialect {m : Machine σ} {d : Dialect} {n : Nat}
    (h : ∀ k < n, (next^[k] m).Indifferent m.cpu.flags.dialect d) :
    next^[n] ⟨m.cpu.withDialect d, m.host⟩ =
      ⟨(next^[n] m).cpu.withDialect d, (next^[n] m).host⟩ := by
  induction n with
  | zero => rfl
  | succ n ih =>
    have hn := ih fun k hk => h k (Nat.lt_succ_of_lt hk)
    rw [Function.iterate_succ_apply', Function.iterate_succ_apply', hn]
    exact congrArg Run.machine (tick_indifferent n (h n (Nat.lt_succ_self n)))

/-- Two processors that differ in the dialect only stay so for as long as what is executed does not
tell their dialects apart, on hosts that stay the same, and every tick on the way ends alike. -/
theorem dialects_isolated {a b : Cpu} (hab : b = { a with flags.dialect := b.flags.dialect })
    (host : σ) {n : Nat}
    (h : ∀ k < n, (next^[k] ⟨a, host⟩).Indifferent a.flags.dialect b.flags.dialect) :
    let m (k : Nat) : Machine σ := next^[k] ⟨a, host⟩
    let m' (k : Nat) : Machine σ := next^[k] ⟨b, host⟩
    (∀ k ≤ n, (m' k).cpu = { (m k).cpu with flags.dialect := b.flags.dialect } ∧
      (m' k).host = (m k).host) ∧
    ∀ k < n, (m' k).tick.result = (m k).tick.result ∧ (m' k).tick.trace = (m k).tick.trace := by
  intro m m'
  have hm : ∀ k ≤ n, m' k = ⟨(m k).cpu.withDialect b.flags.dialect, (m k).host⟩ := by
    intro k hk
    have hstart : (⟨b, host⟩ : Machine σ) = ⟨a.withDialect b.flags.dialect, host⟩ :=
      congrArg (Machine.mk · host) hab
    simp only [m', hstart]
    exact iterate_withDialect (m := ⟨a, host⟩) fun j hj => h j (by omega)
  constructor
  · intro k hk
    rw [hm k hk]
    exact ⟨rfl, rfl⟩
  · intro k hk
    have ht : (m' k).tick = (m k).tick.withDialect b.flags.dialect := by
      rw [hm k (Nat.le_of_lt hk)]
      exact tick_indifferent (m := ⟨a, host⟩) k (h k hk)
    rw [ht]
    exact ⟨rfl, rfl⟩

/-- A program that shifts a register by itself and stores it, over and over, for a dialect that takes
the one register for the shift and moves on behind the block. -/
def shifting : Cpu :=
  let program := [0x83, 0x36, 0xf3, 0x55, 0x12, 0x00]
  let cpu := (Cpu.initial.perform (Headless.seeded 0) (.load 0x200 program)).cpu
  { cpu with flags.dialect := ⟨false, true, false⟩ }

/-- It does not tell that dialect from one that takes the other register. -/
theorem dialects_isolated_shifting :
    let host := Headless.seeded 0
    let other : Cpu := { shifting with flags.dialect := .uniform true }
    (∀ k < 5, (next^[k] ⟨shifting, host⟩).Indifferent shifting.flags.dialect
      other.flags.dialect) ∧
    (next^[5] ⟨other, host⟩).cpu =
      { (next^[5] ⟨shifting, host⟩).cpu with flags.dialect := .uniform true } := by
  intro host other
  have h : ∀ k < 5, (next^[k] ⟨shifting, host⟩).Indifferent shifting.flags.dialect
      other.flags.dialect := by
    decide +kernel
  exact ⟨h, ((dialects_isolated rfl host h).1 5 (Nat.le_refl 5)).1⟩

end Machine

end Chip8
