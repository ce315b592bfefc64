import Chip8.Proofs.Machine

/-! Frames and single steps by their parts: the ticks, the timers and the screen. A fault ends both
where it happens, and anything else lets them go on to the screen. -/

namespace Chip8.Cpu

/-! ### The screen -/

theorem withDirty_eq {cpu : Cpu} {b : Bool} (h : cpu.flags.dirty = b) :
    { cpu with flags.dirty := b } = cpu := by
  subst h
  rfl

variable {σ : Type}

theorem faulted_eq_true_iff {run : Run σ} :
    faulted run = true ↔ ∃ e, run.result = .error e ∧ e.isBreakpoint = false := by
  unfold faulted
  split
  case h_1 h => simp [h]
  case h_2 e h => simp [h]

theorem faulted_eq_false {run : Run σ}
    (h : ∀ e, run.result = .error e → e.isBreakpoint = true) : faulted run = false := by
  rw [Bool.eq_false_iff, Ne, faulted_eq_true_iff]
  rintro ⟨e, he, hb⟩
  rw [h e he] at hb
  cases hb

variable [Host σ]

theorem present_clean {run : Run σ} (h : run.cpu.flags.dirty = false) : present run = run :=
  if_neg (by simp [h])

theorem present_dirty {run : Run σ} (h : run.cpu.flags.dirty = true) :
    present run = ⟨{ run.cpu with flags.dirty := false }, (Host.present run.host).2, run.trace,
      (Host.present run.host).1.bind fun _ => run.result⟩ := by
  obtain ⟨cpu, host, trace, result⟩ := run
  rw [present, if_pos h]
  rcases hp : Host.present host with ⟨_ | _, _⟩ <;> simp [Except.bind]

/-- Whether or not there was something to show, nothing is left to show. -/
theorem present_cpu (run : Run σ) : (present run).cpu = { run.cpu with flags.dirty := false } := by
  cases h : run.cpu.flags.dirty with
  | true => rw [present_dirty h]
  | false =>
    rw [present_clean h, withDirty_eq h]

/-! ### Frames -/

/-- The processor after the ticks of a frame, with its timers run down unless the frame began in a
pause. -/
def timed (paused : Bool) (cpu : Cpu) : Cpu := if paused then cpu else cpu.runTimers

@[simp] theorem timed_flags (paused : Bool) (cpu : Cpu) : (cpu.timed paused).flags = cpu.flags := by
  cases paused <;> rfl

theorem runFrame_of_fault {cpu : Cpu} {host : σ} {n : Nat}
    (h : faulted (ticks n cpu host #[]) = true) : cpu.runFrame host n = ticks n cpu host #[] :=
  if_pos h

theorem runFrame_of_not_fault {cpu : Cpu} {host : σ} {n : Nat}
    (h : faulted (ticks n cpu host #[]) = false) :
    cpu.runFrame host n = present
      { ticks n cpu host #[] with
        cpu := (ticks n cpu host #[]).cpu.timed cpu.flags.paused } := by
  rw [runFrame]
  simp only [h]
  cases cpu.flags.paused <;> rfl

/-- Where a frame has not failed, its ticks have not. -/
theorem faulted_ticks_of_runFrame {cpu : Cpu} {host : σ} {n : Nat}
    (h : faulted (cpu.runFrame host n) = false) : faulted (ticks n cpu host #[]) = false := by
  cases hf : faulted (ticks n cpu host #[]) with
  | true => rwa [runFrame_of_fault hf, hf] at h
  | false => rfl

/-- During a pause nothing moves but the cycle counter, and that only if it is to. -/
theorem ticks_paused {cpu : Cpu} {host : σ} (h : cpu.flags.paused = true) (n : Nat) (trace : Array String) :
    ticks n cpu host trace =
      ⟨{ cpu with cycle := cpu.cycle + if cpu.flags.countPaused then n else 0 }, host, trace,
        .ok ()⟩ := by
  induction n generalizing cpu trace with
  | zero => cases hc : cpu.flags.countPaused <;> rfl
  | succ n ih =>
    rw [ticks, tick_paused host h]
    cases hc : cpu.flags.countPaused with
    | true =>
      have hn : cpu.countCycle.flags.paused = true := h
      simp only [if_true, Array.append_empty]
      rw [ih hn]
      simp [countCycle, hc, Nat.add_assoc, Nat.add_comm 1]
    | false =>
      simp only [Bool.false_eq_true, if_false, Array.append_empty]
      rw [ih h]
      simp [hc]

/-- In a pause that counts no cycles, with nothing to show, a frame does nothing at all. -/
theorem runFrame_idle {cpu : Cpu} (host : σ) (n : Nat) (hp : cpu.flags.paused = true)
    (hc : cpu.flags.countPaused = false) (hd : cpu.flags.dirty = false) :
    cpu.runFrame host n = ⟨cpu, host, #[], .ok ()⟩ := by
  have ht : ticks n cpu host #[] = ⟨cpu, host, #[], .ok ()⟩ := by
    rw [ticks_paused hp, hc]
    rfl
  have hf : faulted (ticks n cpu host #[]) = false := by
    rw [ht]
    rfl
  rw [runFrame_of_not_fault hf, ht, hp]
  exact present_clean hd

/-- A fault finds the machine running, and leaves it so. -/
theorem ticks_fault_running {cpu : Cpu} {host : σ} {n : Nat} {e : Error}
    (h : (ticks n cpu host #[]).result = .error e) (he : e.isBreakpoint = false) :
    (ticks n cpu host #[]).cpu.flags.paused = false := by
  obtain ⟨k, hk, hm⟩ := Machine.makes_ticks n ⟨cpu, host⟩ #[]
  have hcpu : (ticks n cpu host #[]).cpu = (Machine.next^[k] ⟨cpu, host⟩).cpu :=
    congrArg Machine.cpu hm
  cases k with
  | zero =>
    have ho := hk.result_zero rfl
    rw [h] at ho
    cases ho
  | succ j =>
    have hr := (hk.result_succ j rfl).trans h
    rw [hcpu, Function.iterate_succ_apply']
    exact tick_fault_running hr he

/-- After a frame nothing is left to show, unless the machine runs on. -/
theorem runFrame_paused_clean (cpu : Cpu) (host : σ) (n : Nat)
    (h : (cpu.runFrame host n).cpu.flags.paused = true) :
    (cpu.runFrame host n).cpu.flags.dirty = false := by
  cases hf : faulted (ticks n cpu host #[]) with
  | true =>
    obtain ⟨e, hr, he⟩ := faulted_eq_true_iff.mp hf
    rw [runFrame_of_fault hf, ticks_fault_running hr he] at h
    cases h
  | false => rw [runFrame_of_not_fault hf, present_cpu]

/-- What ticks, timers and shown screens keep, a frame keeps. -/
theorem runFrame_induction {P : Cpu → Prop} (tick : ∀ cpu (host : σ), P cpu → P (cpu.tick host).cpu)
    (timers : ∀ cpu, P cpu → P cpu.runTimers)
    (shown : ∀ cpu, P cpu → P { cpu with flags.dirty := false }) {cpu : Cpu} (h : P cpu) (host : σ)
    (n : Nat) : P (cpu.runFrame host n).cpu := by
  have ht : P (ticks n cpu host #[]).cpu :=
    ticks_induction (P := fun cpu _ => P cpu) tick n #[] h
  cases hf : faulted (ticks n cpu host #[]) with
  | true =>
    rw [runFrame_of_fault hf]
    exact ht
  | false =>
    rw [runFrame_of_not_fault hf, present_cpu]
    refine shown _ ?_
    unfold timed
    split
    · exact ht
    · exact timers _ ht

theorem runFrame_countPaused (cpu : Cpu) (host : σ) (n : Nat) :
    (cpu.runFrame host n).cpu.flags.countPaused = cpu.flags.countPaused := by
  apply runFrame_induction (P := fun c => c.flags.countPaused = cpu.flags.countPaused)
  · intro c host hc
    rw [tick_countPaused, hc]
  · intro c hc
    exact hc
  · intro c hc
    exact hc
  · rfl

/-! ### Single steps -/

/-- The tick of a single step, with the pause put back. -/
def stepTick (cpu : Cpu) (host : σ) : Run σ :=
  let run := ({ cpu with flags.paused := false } : Cpu).tick host
  { run with cpu.flags.paused := run.cpu.flags.paused || cpu.flags.paused }

theorem stepOnce_eq (cpu : Cpu) (host : σ) :
    cpu.stepOnce host =
      if faulted (cpu.stepTick host) then cpu.stepTick host else present (cpu.stepTick host) :=
  rfl

theorem stepOnce_of_fault {cpu : Cpu} {host : σ} (h : faulted (cpu.stepTick host) = true) :
    cpu.stepOnce host = cpu.stepTick host := by
  rw [stepOnce_eq, if_pos h]

theorem stepOnce_of_not_fault {cpu : Cpu} {host : σ} (h : faulted (cpu.stepTick host) = false) :
    cpu.stepOnce host = present (cpu.stepTick host) := by
  rw [stepOnce_eq, h]
  rfl

/-- Where a single step has not failed, its tick has not. -/
theorem faulted_stepTick_of_stepOnce {cpu : Cpu} {host : σ}
    (h : faulted (cpu.stepOnce host) = false) : faulted (cpu.stepTick host) = false := by
  cases hf : faulted (cpu.stepTick host) with
  | true => rwa [stepOnce_of_fault hf, hf] at h
  | false => rfl

/-- What ticks, pauses and shown screens keep, a single step keeps. -/
theorem stepOnce_induction {P : Cpu → Prop}
    (tick : ∀ cpu (host : σ), P cpu → P (cpu.tick host).cpu)
    (paused : ∀ cpu b, P cpu → P { cpu with flags.paused := b })
    (shown : ∀ cpu, P cpu → P { cpu with flags.dirty := false }) {cpu : Cpu} (h : P cpu)
    (host : σ) : P (cpu.stepOnce host).cpu := by
  have ht : P (cpu.stepTick host).cpu := paused _ _ (tick _ host (paused cpu false h))
  cases hf : faulted (cpu.stepTick host) with
  | true =>
    rw [stepOnce_of_fault hf]
    exact ht
  | false =>
    rw [stepOnce_of_not_fault hf, present_cpu]
    exact shown _ ht

end Chip8.Cpu
