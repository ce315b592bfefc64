import Chip8.Headless
import Chip8.Proofs.Usage

/-! A machine that is reset starts afresh. Memory is all that a reset leaves alone, and only two
instructions write to it. So where none of them is executed, and nobody else writes to memory, a
reset machine is one that was just made for its program. -/

namespace Chip8

/-- Leaves memory to the instructions that are executed. -/
def Operation.keepsMemory : Operation → Bool
  | .loadProgram _ | .load .. | .write .. | .writeWord .. | .clear .. => false
  | _ => true

def Use.keepsMemory {σ : Type} : Use σ → Bool
  | .operation op => op.keepsMemory
  | .change _ => true

namespace Cpu

variable {σ : Type} [Host σ]

theorem tick_memory {cpu : Cpu} (host : σ) (h : ∀ i ∈ cpu.executed, i.stored = 0) :
    (cpu.tick host).cpu.memory = cpu.memory := by
  obtain ⟨_, ht⟩ | ⟨e, _, _, ht⟩ | ⟨i, done, hp, hi, hf, rfl, hend⟩ := cpu.tick_cases host
  · rw [ht]
    split <;> rfl
  · rw [ht]
    rfl
  · have hm : (cpu.countCycle.execute host i).cpu.memory = cpu.memory :=
      cpu.countCycle.execute_memory host (h i (executed_of_decode hp hi hf))
    obtain ⟨_, ht⟩ | ⟨_, ht⟩ := hend
    · rwa [ht]
    · rwa [ht]

theorem runFrame_memory (cpu : Cpu) (host : σ) (n : Nat) :
    (cpu.runFrame host n).cpu.memory = (ticks n cpu host #[]).cpu.memory := by
  cases hf : faulted (ticks n cpu host #[]) with
  | true => rw [runFrame_of_fault hf]
  | false =>
    rw [runFrame_of_not_fault hf, present_cpu, timed]
    split <;> rfl

theorem stepOnce_memory (cpu : Cpu) (host : σ) :
    (cpu.stepOnce host).cpu.memory =
      (({ cpu with flags.paused := false } : Cpu).tick host).cpu.memory := by
  cases hf : faulted (cpu.stepTick host) with
  | true =>
    rw [stepOnce_of_fault hf]
    rfl
  | false =>
    rw [stepOnce_of_not_fault hf, present_cpu]
    rfl

end Cpu

namespace Machine

variable {σ : Type} [Host σ] {m : Machine σ}

/-- Executes no instruction that writes to memory. -/
def Storeless (m : Machine σ) : Prop := ∀ i ∈ m.cpu.executed, i.stored = 0

instance : Decidable m.Storeless :=
  inferInstanceAs (Decidable (∀ i ∈ m.cpu.executed, i.stored = 0))

theorem ticks_memory {n : Nat} (h : ∀ k ∈ m.ticking n, k.Storeless) (trace : Array String) :
    (Cpu.ticks n m.cpu m.host trace).cpu.memory = m.cpu.memory :=
  ticking_induction (P := fun k => k.cpu.memory = m.cpu.memory)
    (fun k hk hm => (Cpu.tick_memory k.host (h k hk)).trans hm) trace rfl

theorem use_memory {u : Use σ} (hu : u.keepsMemory = true)
    (h : ∀ k ∈ m.executing u, k.Storeless) : (m.use u).cpu.memory = m.cpu.memory := by
  rcases u with op | f
  · cases op with
    | loadProgram | load | write | writeWord | clear => cases hu
    | tick =>
      cases hp : m.cpu.flags.paused with
      | true =>
        have hnone : m.cpu.executed = none := by simp [Cpu.executed, hp]
        exact Cpu.tick_memory m.host (by simp [hnone])
      | false =>
        simp only [executing, hp, Bool.false_eq_true, if_false, List.forall_mem_singleton] at h
        exact Cpu.tick_memory m.host h
    | stepOnce =>
      rw [executing, List.forall_mem_singleton] at h
      exact (m.cpu.stepOnce_memory m.host).trans (Cpu.tick_memory m.host h)
    | frame n =>
      refine (m.cpu.runFrame_memory m.host n).trans ?_
      cases hp : m.cpu.flags.paused with
      | true => rw [Cpu.ticks_paused hp]
      | false =>
        simp only [executing, hp, Bool.false_eq_true, if_false] at h
        exact ticks_memory h #[]
    | setRegister r b =>
      obtain ⟨v, he⟩ := m.cpu.setRegister_eq r b
      rw [use, Cpu.perform, Run.ofChange, he]
    | addBreakpoint a =>
      obtain ⟨breakpoints, he⟩ := m.cpu.addBreakpoint_eq a
      rw [use, Cpu.perform, Run.ofChange, he]
    | _ => rfl
  · rfl

theorem used_memory {uses : Nat → Use σ} {t : Nat}
    (h : ∀ s < t, (uses s).keepsMemory = true ∧
      ∀ k ∈ (m.used uses s).executing (uses s), k.Storeless) :
    (m.used uses t).cpu.memory = m.cpu.memory := by
  induction t with
  | zero => rfl
  | succ t ih =>
    obtain ⟨hu, hk⟩ := h t (Nat.lt_succ_self t)
    exact (use_memory hu hk).trans (ih fun s hs => h s (Nat.lt_succ_of_lt hs))

end Machine

namespace Cpu

/-- A reset forgets all but memory, the breakpoints and the other flags. -/
theorem reset_eq {cpu start : Cpu} (h : cpu.memory = start.memory) :
    cpu.reset = { initial with
      memory := start.memory
      breakpoints := cpu.breakpoints
      flags := { cpu.flags with awaitingKey := false, dirty := false } } := by
  rw [← h]
  rfl

/-- A machine that was made for a program and then used in any way is as good as new after a reset,
unless its memory was written to. It only keeps the breakpoints and the flags that it has by then. -/
theorem reset_used {σ : Type} [Host σ] {program : List UInt8}
    (hprogram : program.length ≤ Memory.programRoom) (breakpoints : List UInt16) (flags : Flags) :
    ∃ cpu, ofProgram program breakpoints flags = .ok cpu ∧
      ∀ (host : σ) (uses : Nat → Use σ) (t : Nat),
        (∀ s < t, (uses s).keepsMemory = true ∧
          ∀ k ∈ (Machine.used ⟨cpu, host⟩ uses s).executing (uses s), k.Storeless) →
        let last := (Machine.used ⟨cpu, host⟩ uses t).cpu
        ofProgram program last.breakpoints
          { last.flags with awaitingKey := false, dirty := false } = .ok last.reset := by
  obtain ⟨memory, hmemory⟩ := ofProgram_memory hprogram
  refine ⟨_, hmemory breakpoints flags, fun host uses t h => ?_⟩
  intro last
  rw [hmemory, reset_eq (Machine.used_memory h)]

/-- Calls a subroutine that sets the delay timer, draws, and returns. -/
def calling : List UInt8 :=
  [0x22, 0x06, 0x12, 0x02, 0x00, 0x00, 0x61, 0x05, 0xf1, 0x15, 0xd1, 0x15, 0x00, 0xee]

/-- In the middle of the subroutine, after a frame of four instructions. -/
theorem reset_used_calling :
    ∃ cpu, ofProgram calling [] .none = .ok cpu ∧
      let last := (Machine.used ⟨cpu, Headless.seeded 0⟩ (fun _ => .operation (.frame 4)) 1).cpu
      last.stack.depth = 1 ∧
        ofProgram calling last.breakpoints
          { last.flags with awaitingKey := false, dirty := false } = .ok last.reset := by
  have hfits : calling.length ≤ Memory.programRoom := by decide
  obtain ⟨cpu, hcpu, hreset⟩ := reset_used (σ := Headless) hfits [] .none
  obtain rfl : (initial.perform (Headless.seeded 0) (.loadProgram calling)).cpu = cpu :=
    Except.ok.inj hcpu
  refine ⟨_, hcpu, by decide +kernel, ?_⟩
  refine hreset (Headless.seeded 0) (fun _ => .operation (.frame 4)) 1 fun s hs => ?_
  obtain rfl : s = 0 := Nat.lt_one_iff.mp hs
  exact ⟨rfl, by decide +kernel⟩

end Cpu

end Chip8
