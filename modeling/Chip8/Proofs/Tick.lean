import Chip8.Cpu.Tick
import Chip8.Proofs.Execute

/-! One tick by its outcome: a pause, a fault, a breakpoint, or an instruction and nothing else. -/

namespace Chip8

namespace Cpu

/-- The fault of the instruction at the program counter, if it has one. -/
def pendingFault (cpu : Cpu) : Option Error :=
  match Instruction.decode ⟨cpu.fetch⟩ with
  | some i => cpu.faultOf i
  | none => some (.unimplementedInstruction cpu.pc cpu.fetch)

/-- The instruction that a tick executes, if it executes one. -/
def executed (cpu : Cpu) : Option Instruction :=
  if cpu.flags.paused ∨ cpu.pendingFault.isSome then none else Instruction.decode ⟨cpu.fetch⟩

variable {σ : Type}

theorem checkBreakpoint_hit {cpu : Cpu} (host : σ) (trace : Array String)
    (h : cpu.pc ∈ cpu.breakpoints) :
    cpu.checkBreakpoint host trace =
      ⟨{ cpu with flags.paused := true }, host, trace, .error (.breakpointHit cpu.pc cpu.fetch)⟩ :=
  if_pos h

theorem checkBreakpoint_miss {cpu : Cpu} (host : σ) (trace : Array String)
    (h : cpu.pc ∉ cpu.breakpoints) : cpu.checkBreakpoint host trace = ⟨cpu, host, trace, .ok ()⟩ :=
  if_neg h

/-- All that comes of a look at the breakpoints is a pause. -/
theorem checkBreakpoint_pauses (cpu : Cpu) (host : σ) (trace : Array String) :
    ∃ paused result, cpu.checkBreakpoint host trace =
        ⟨{ cpu with flags.paused := paused }, host, trace, result⟩ ∧
      ∀ e, result = .error e → e.isBreakpoint = true := by
  by_cases h : cpu.pc ∈ cpu.breakpoints
  · refine ⟨true, _, checkBreakpoint_hit host trace h, ?_⟩
    rintro e ⟨⟩
    rfl
  · exact ⟨cpu.flags.paused, _, checkBreakpoint_miss host trace h, by nofun⟩

variable [Host σ]

theorem tick_paused {cpu : Cpu} (host : σ) (h : cpu.flags.paused = true) :
    cpu.tick host = ⟨if cpu.flags.countPaused then cpu.countCycle else cpu, host, #[], .ok ()⟩ :=
  if_pos h

theorem tick_running {cpu : Cpu} (host : σ) (h : cpu.flags.paused = false) :
    cpu.tick host = cpu.step host :=
  if_neg (by simp [h])

theorem step_of_fault {cpu : Cpu} {e : Error} (host : σ) (h : cpu.pendingFault = some e) :
    cpu.step host = ⟨cpu.countCycle, host, cpu.traceNext cpu.fetch, .error e⟩ := by
  unfold pendingFault at h
  split at h
  case h_1 i hi =>
    have hf : cpu.countCycle.faultOf i = some e := h
    simp only [step, executeWord, hi, execute_of_fault host hf]
  case h_2 hi =>
    obtain rfl := Option.some.inj h
    simp only [step, executeWord, hi]
    rfl

theorem step_of_decode {cpu : Cpu} {i : Instruction} (host : σ)
    (hi : Instruction.decode ⟨cpu.fetch⟩ = some i) (hf : cpu.faultOf i = none) :
    cpu.step host = (cpu.countCycle.execute host i).cpu.checkBreakpoint
      (cpu.countCycle.execute host i).host (cpu.traceNext cpu.fetch) := by
  have h : (cpu.countCycle.execute host i).fault = none :=
    (execute_fault cpu.countCycle host i).trans hf
  simp only [step, executeWord, hi]
  generalize cpu.countCycle.execute host i = done at h
  obtain ⟨_, _, fault⟩ := done
  obtain rfl : fault = none := h
  rfl

/-- Where nothing is wrong with an instruction, a tick is its execution, but for a pause. -/
theorem tick_of_decode {cpu : Cpu} {i : Instruction} (host : σ) (hp : cpu.flags.paused = false)
    (hi : Instruction.decode ⟨cpu.fetch⟩ = some i) (hf : cpu.faultOf i = none) :
    ∃ paused result, cpu.tick host =
        ⟨{ (cpu.countCycle.execute host i).cpu with flags.paused := paused },
          (cpu.countCycle.execute host i).host, cpu.traceNext cpu.fetch, result⟩ ∧
      ∀ e, result = .error e → e.isBreakpoint = true := by
  rw [tick_running host hp, step_of_decode host hi hf]
  exact checkBreakpoint_pauses _ _ _

/-- All that a tick can come to. -/
theorem tick_cases (cpu : Cpu) (host : σ) :
    (cpu.flags.paused = true ∧
      cpu.tick host =
        ⟨if cpu.flags.countPaused then cpu.countCycle else cpu, host, #[], .ok ()⟩) ∨
    (∃ e, cpu.flags.paused = false ∧ cpu.pendingFault = some e ∧
      cpu.tick host = ⟨cpu.countCycle, host, cpu.traceNext cpu.fetch, .error e⟩) ∨
    (∃ i done, cpu.flags.paused = false ∧ Instruction.decode ⟨cpu.fetch⟩ = some i ∧
      cpu.faultOf i = none ∧ cpu.countCycle.execute host i = done ∧
      ((done.cpu.pc ∉ cpu.breakpoints ∧
          cpu.tick host = ⟨done.cpu, done.host, cpu.traceNext cpu.fetch, .ok ()⟩) ∨
        (done.cpu.pc ∈ cpu.breakpoints ∧
          cpu.tick host = ⟨{ done.cpu with flags.paused := true }, done.host,
            cpu.traceNext cpu.fetch, .error (.breakpointHit done.cpu.pc done.cpu.fetch)⟩))) := by
  cases hp : cpu.flags.paused with
  | true => exact .inl ⟨rfl, tick_paused host hp⟩
  | false =>
    refine .inr ?_
    rw [tick_running host hp]
    cases hf : cpu.pendingFault with
    | some e => exact .inl ⟨e, rfl, rfl, step_of_fault host hf⟩
    | none =>
      obtain ⟨i, hi, hn⟩ : ∃ i, Instruction.decode ⟨cpu.fetch⟩ = some i ∧ cpu.faultOf i = none := by
        unfold pendingFault at hf
        split at hf
        case h_1 i hi => exact ⟨i, hi, hf⟩
        case h_2 => cases hf
      refine .inr ⟨i, _, rfl, hi, hn, rfl, ?_⟩
      rw [step_of_decode host hi hn]
      have hb := cpu.countCycle.execute_breakpoints host i
      by_cases h : (cpu.countCycle.execute host i).cpu.pc ∈ cpu.breakpoints
      · exact .inr ⟨h, checkBreakpoint_hit _ _ (hb ▸ h)⟩
      · exact .inl ⟨h, checkBreakpoint_miss _ _ (hb ▸ h)⟩

theorem executed_of_paused {cpu : Cpu} (h : cpu.flags.paused = true) : cpu.executed = none :=
  if_pos (.inl h)

theorem executed_of_fault {cpu : Cpu} {e : Error} (h : cpu.pendingFault = some e) :
    cpu.executed = none :=
  if_pos (.inr (by simp [h]))

theorem executed_of_decode {cpu : Cpu} {i : Instruction} (hp : cpu.flags.paused = false)
    (hi : Instruction.decode ⟨cpu.fetch⟩ = some i) (hf : cpu.faultOf i = none) :
    cpu.executed = some i := by
  have h : cpu.pendingFault = none := by simp [pendingFault, hi, hf]
  simp [executed, hp, h, hi]

/-- A tick keeps the breakpoints and most flags, and only drawing makes the screen dirty. -/
theorem tick_frame (cpu : Cpu) (host : σ) :
    (cpu.tick host).cpu =
      { (cpu.tick host).cpu with
        breakpoints := cpu.breakpoints
        flags := { cpu.flags with
          paused := (cpu.tick host).cpu.flags.paused
          awaitingKey := (cpu.tick host).cpu.flags.awaitingKey
          dirty := cpu.executed.any Instruction.draws || cpu.flags.dirty } } := by
  obtain ⟨hp, he⟩ | ⟨e, hp, hf, he⟩ | ⟨i, done, hp, hi, hf, rfl, ⟨_, he⟩ | ⟨_, he⟩⟩ :=
    cpu.tick_cases host
  · rw [he, executed_of_paused hp]
    split <;> rfl
  · rw [he, executed_of_fault hf]
    rfl
  · rw [he, executed_of_decode hp hi hf, execute_frame]
    rfl
  · rw [he, executed_of_decode hp hi hf, execute_frame]
    rfl

theorem tick_breakpoints (cpu : Cpu) (host : σ) :
    (cpu.tick host).cpu.breakpoints = cpu.breakpoints := by
  rw [tick_frame]

theorem tick_countPaused (cpu : Cpu) (host : σ) :
    (cpu.tick host).cpu.flags.countPaused = cpu.flags.countPaused := by
  rw [tick_frame]

theorem tick_dirty (cpu : Cpu) (host : σ) :
    (cpu.tick host).cpu.flags.dirty = (cpu.executed.any Instruction.draws || cpu.flags.dirty) := by
  rw [tick_frame]

theorem tick_cycle {cpu : Cpu} (host : σ) (h : cpu.flags.paused = false) :
    (cpu.tick host).cpu.cycle = cpu.cycle + 1 := by
  obtain ⟨hp, he⟩ | ⟨e, hp, hf, he⟩ | ⟨i, done, hp, hi, hf, rfl, ⟨_, he⟩ | ⟨_, he⟩⟩ :=
    cpu.tick_cases host
  · simp [hp] at h
  · rw [he]
    rfl
  · rw [he]
    exact execute_cycle ..
  · rw [he]
    exact execute_cycle ..

/-- A tick that ends well leaves a running machine running, short of every breakpoint. -/
theorem tick_ok {cpu : Cpu} {host : σ} (hp : cpu.flags.paused = false)
    (h : (cpu.tick host).result = .ok ()) :
    (cpu.tick host).cpu.flags.paused = false ∧ (cpu.tick host).cpu.pc ∉ cpu.breakpoints := by
  obtain ⟨hp', he⟩ | ⟨e, hp, hf, he⟩ | ⟨i, done, hp, hi, hf, rfl, ⟨hb, he⟩ | ⟨_, he⟩⟩ :=
    cpu.tick_cases host
  · simp [hp] at hp'
  · simp [he] at h
  · rw [he]
    exact ⟨(execute_paused ..).trans hp, hb⟩
  · simp [he] at h

theorem tick_fault_running {cpu : Cpu} {host : σ} {e : Error}
    (h : (cpu.tick host).result = .error e) (he : e.isBreakpoint = false) :
    (cpu.tick host).cpu.flags.paused = false := by
  obtain ⟨_, ht⟩ | ⟨e', hp, _, ht⟩ | ⟨i, done, _, _, _, rfl, ⟨_, ht⟩ | ⟨_, ht⟩⟩ :=
    cpu.tick_cases host
  · simp [ht] at h
  · rw [ht]
    exact hp
  · simp [ht] at h
  · rw [ht] at h
    obtain rfl := Except.error.inj h
    cases he

end Cpu

end Chip8
