import Chip8.Cpu.Frame
import Chip8.Proofs.Tick
import Mathlib.Logic.Function.Iterate

/-! A machine is a processor with its host. It ticks on after faults and breakpoints as its owner may
have it, and a run of ticks is a first part of that. -/

namespace Chip8

structure Machine (σ : Type) where
  cpu : Cpu
  host : σ

/-- The machine that a run leaves behind. -/
def Run.machine {σ : Type} (run : Run σ) : Machine σ := ⟨run.cpu, run.host⟩

namespace Machine

variable {σ : Type} [Host σ]

def tick (m : Machine σ) : Run σ := m.cpu.tick m.host

/-- The machine after a tick, however the tick ended. -/
def next (m : Machine σ) : Machine σ := m.tick.machine

/-- Of `n` ticks asked for, `k` are made: all but the last end well, and none is left out after a
last one that ends well. -/
structure Makes (m : Machine σ) (n k : Nat) (result : Except Error Unit) : Prop where
  le : k ≤ n
  ok_of_lt : ∀ j, j + 1 < k → (next^[j] m).tick.result = .ok ()
  result_zero : k = 0 → result = .ok ()
  result_succ : ∀ j, k = j + 1 → (next^[j] m).tick.result = result
  full : result = .ok () → k = n

/-- A run of ticks makes some of them, and leaves the machine where the last one left it. -/
theorem makes_ticks (n : Nat) (m : Machine σ) (trace : Array String) :
    ∃ k, m.Makes n k (Cpu.ticks n m.cpu m.host trace).result ∧
      (Cpu.ticks n m.cpu m.host trace).machine = next^[k] m := by
  induction n generalizing m trace with
  | zero => exact ⟨0, ⟨Nat.le_refl 0, by simp, fun _ => rfl, by simp, fun _ => rfl⟩, rfl⟩
  | succ n ih =>
    rcases h : m.cpu.tick m.host with ⟨cpu, host, lines, result⟩
    have hn : m.next = ⟨cpu, host⟩ := by simp [next, tick, h, Run.machine]
    have hr : m.tick.result = result := by simp [tick, h]
    cases result with
    | error e =>
      have hrun : Cpu.ticks (n + 1) m.cpu m.host trace = ⟨cpu, host, trace ++ lines, .error e⟩ := by
        simp [Cpu.ticks, h]
      refine ⟨1, ⟨by omega, by omega, by omega, ?_, by simp [hrun]⟩, ?_⟩
      · intro j hj
        obtain rfl : j = 0 := by omega
        rw [hrun]
        exact hr
      · rw [hrun]
        exact hn.symm
    | ok =>
      have hrun : Cpu.ticks (n + 1) m.cpu m.host trace =
          Cpu.ticks n m.next.cpu m.next.host (trace ++ lines) := by
        simp [Cpu.ticks, h, hn]
      obtain ⟨k, hk, hm⟩ := ih m.next (trace ++ lines)
      rw [hrun]
      refine ⟨k + 1, ⟨by have := hk.le; omega, ?_, by omega, ?_, ?_⟩, hm⟩
      · rintro (_ | j) hj
        · exact hr
        · exact hk.ok_of_lt j (by omega)
      · rintro (_ | j) hj
        · exact hr.trans (hk.result_zero (by omega)).symm
        · exact hk.result_succ j (by omega)
      · intro ho
        rw [hk.full ho]

end Machine

namespace Cpu

variable {σ : Type} [Host σ]

/-- What a tick keeps, a run of ticks keeps. -/
theorem ticks_induction {P : Cpu → σ → Prop}
    (step : ∀ cpu host, P cpu host → P (cpu.tick host).cpu (cpu.tick host).host) (n : Nat)
    {cpu : Cpu} {host : σ} (trace : Array String) (h : P cpu host) :
    P (ticks n cpu host trace).cpu (ticks n cpu host trace).host := by
  obtain ⟨k, _, hm⟩ := Machine.makes_ticks n ⟨cpu, host⟩ trace
  have hk : (fun m : Machine σ => P m.cpu m.host) (Machine.next^[k] ⟨cpu, host⟩) :=
    Function.Iterate.rec _ h (fun m => step m.cpu m.host) k
  rw [← hm] at hk
  exact hk

end Cpu

end Chip8
