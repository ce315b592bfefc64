import Chip8.Proofs.Reachable

/-! A machine in use. Its owner does one thing after the other with it, and between these the host
may change by itself, as when keys go up and down. Frames and single steps are ticks at heart, and
so every use is told by the machines that it lets execute an instruction. -/

namespace Chip8

inductive Use (σ : Type) where
  | operation (op : Operation)
  /-- The host changes by itself. -/
  | change (f : σ → σ)

namespace Machine

variable {σ : Type} [Host σ]

def use (m : Machine σ) : Use σ → Run σ
  | .operation op => m.cpu.perform m.host op
  | .change f => ⟨m.cpu, f m.host, #[], .ok ()⟩

/-- The machine at each time, if it is used so at each time. -/
def used (m : Machine σ) (uses : Nat → Use σ) : Nat → Machine σ
  | 0 => m
  | t + 1 => ((m.used uses t).use (uses t)).machine

/-- The machines before each of the ticks that a run of ticks makes. -/
def ticking : Nat → Machine σ → List (Machine σ)
  | 0, _ => []
  | n + 1, m =>
    m :: match m.tick.result with
      | .ok () => ticking n m.next
      | .error _ => []

/-- What every tick that is made keeps, the run of ticks keeps. -/
theorem ticking_induction {P : Machine σ → Prop} {n : Nat} {m : Machine σ}
    (step : ∀ k ∈ m.ticking n, P k → P k.next) (trace : Array String) (h : P m) :
    P (Cpu.ticks n m.cpu m.host trace).machine := by
  induction n generalizing m trace with
  | zero => exact h
  | succ n ih =>
    rw [ticking, List.forall_mem_cons] at step
    obtain ⟨hm, hrest⟩ := step
    have hnext : P m.tick.machine := hm h
    unfold Cpu.ticks
    split
    case h_1 ht =>
      have hn : m.next = ⟨_, _⟩ := congrArg Run.machine ht
      have hr : m.tick.result = _ := congrArg Run.result ht
      rw [hr, hn] at hrest
      rw [tick, ht] at hnext
      exact ih hrest _ hnext
    case h_2 ht =>
      rw [tick, ht] at hnext
      exact hnext

/-- The machines before each of the ticks of a use, without those that a pause leaves out. -/
def executing (m : Machine σ) : Use σ → List (Machine σ)
  | .operation .tick => if m.cpu.flags.paused then [] else [m]
  | .operation (.frame n) => if m.cpu.flags.paused then [] else m.ticking n
  | .operation .stepOnce => [{ m with cpu.flags.paused := false }]
  | _ => []

/-- No key is held. -/
def Unheld (m : Machine σ) : Prop := (Host.keys m.host).1 = 0

end Machine

end Chip8
