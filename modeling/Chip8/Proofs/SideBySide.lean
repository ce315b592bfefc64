import Chip8.Proofs.Frame

/-! Two machines side by side. If two processors stand at the same instruction, and every instruction
leaves them and their hosts related, then so does a tick, and with it a run of ticks, a frame and a
single step. -/

namespace Chip8

variable {σ τ : Type} {S : Cpu → Cpu → Prop} {R : σ → τ → Prop}
  {T : Array String → Array String → Prop}

structure Executed.Related (S : Cpu → Cpu → Prop) (R : σ → τ → Prop) (a : Executed σ)
    (b : Executed τ) : Prop where
  cpu : S a.cpu b.cpu
  host : R a.host b.host
  fault : a.fault = b.fault

/-- Related processors, related hosts and related lines, and the same result. -/
structure Run.Related (S : Cpu → Cpu → Prop) (R : σ → τ → Prop)
    (T : Array String → Array String → Prop) (a : Run σ) (b : Run τ) : Prop where
  cpu : S a.cpu b.cpu
  host : R a.host b.host
  trace : T a.trace b.trace
  result : a.result = b.result

theorem Run.Related.faulted_eq {a : Run σ} {b : Run τ} (h : a.Related S R T b) :
    Cpu.faulted a = Cpu.faulted b := by
  simp only [Cpu.faulted, h.result]

namespace Cpu

/-- Related processors decide alike around an instruction, and stay related through what is done there;
instructions leave processors and hosts related; and the lines of a trace are related as a whole if
each of them is. -/
structure Lockstep [Host σ] [Host τ] (S : Cpu → Cpu → Prop) (R : σ → τ → Prop)
    (T : Array String → Array String → Prop) : Prop where
  paused {a b : Cpu} : S a b → a.flags.paused = b.flags.paused
  countPaused {a b : Cpu} : S a b → a.flags.countPaused = b.flags.countPaused
  pc {a b : Cpu} : S a b → a.pc = b.pc
  memory {a b : Cpu} : S a b → a.memory = b.memory
  breakpoints {a b : Cpu} : S a b → a.breakpoints = b.breakpoints
  countCycle {a b : Cpu} : S a b → S a.countCycle b.countCycle
  setPaused {a b : Cpu} (paused : Bool) :
    S a b → S { a with flags.paused := paused } { b with flags.paused := paused }
  execute {a b : Cpu} {s : σ} {t : τ} (i : Instruction) :
    S a b → R s t → (a.execute s i).Related S R (b.execute t i)
  silent : T #[] #[]
  traceNext {a b : Cpu} (word : UInt16) : S a b → T (a.traceNext word) (b.traceNext word)
  append {before before' lines lines' : Array String} :
    T before before' → T lines lines' → T (before ++ lines) (before' ++ lines')

/-- Also timers and shown screens keep them related. -/
structure Simulation [Host σ] [Host τ] (S : Cpu → Cpu → Prop) (R : σ → τ → Prop)
    (T : Array String → Array String → Prop) : Prop extends Lockstep S R T where
  dirty {a b : Cpu} : S a b → a.flags.dirty = b.flags.dirty
  shown {a b : Cpu} : S a b → S { a with flags.dirty := false } { b with flags.dirty := false }
  runTimers {a b : Cpu} : S a b → S a.runTimers b.runTimers
  present {s : σ} {t : τ} : R s t →
    (Host.present s).1 = (Host.present t).1 ∧ R (Host.present s).2 (Host.present t).2

variable [Host σ] [Host τ] {a b : Cpu} {s : σ} {t : τ}

/-! ### Ticks -/

namespace Lockstep

theorem fetch (h : Lockstep S R T) (hab : S a b) : a.fetch = b.fetch := by
  unfold Cpu.fetch
  rw [h.pc hab, h.memory hab]

theorem checkBreakpoint (h : Lockstep S R T) (hab : S a b) (hr : R s t)
    {trace trace' : Array String} (ht : T trace trace') :
    (a.checkBreakpoint s trace).Related S R T (b.checkBreakpoint t trace') := by
  by_cases hb : a.pc ∈ a.breakpoints
  · have hb' : b.pc ∈ b.breakpoints := by rwa [← h.pc hab, ← h.breakpoints hab]
    rw [checkBreakpoint_hit s trace hb, checkBreakpoint_hit t trace' hb']
    refine ⟨h.setPaused true hab, hr, ht, ?_⟩
    rw [h.pc hab, h.fetch hab]
  · have hb' : b.pc ∉ b.breakpoints := by rwa [← h.pc hab, ← h.breakpoints hab]
    rw [checkBreakpoint_miss s trace hb, checkBreakpoint_miss t trace' hb']
    exact ⟨hab, hr, ht, rfl⟩

theorem executeWord (h : Lockstep S R T) (hab : S a b) (hr : R s t) (word : UInt16) :
    (a.executeWord s word).Related S R (b.executeWord t word) := by
  unfold Cpu.executeWord
  split
  · exact h.execute _ hab hr
  · exact ⟨hab, hr, by rw [h.pc hab]⟩

theorem step (h : Lockstep S R T) (hab : S a b) (hr : R s t) :
    (a.step s).Related S R T (b.step t) := by
  -- both fetch the same word, so it is the same instruction on both sides
  have he := h.executeWord (h.countCycle hab) hr a.fetch
  have ht := h.traceNext a.fetch hab
  simp only [Cpu.step, ← h.fetch hab]
  generalize a.countCycle.executeWord s a.fetch = done at he ⊢
  generalize b.countCycle.executeWord t a.fetch = done' at he ⊢
  obtain ⟨a', s', fault⟩ := done
  obtain ⟨b', t', _⟩ := done'
  obtain ⟨hab', hr', rfl⟩ := he
  cases fault with
  | some e => exact ⟨hab', hr', ht, rfl⟩
  | none => exact h.checkBreakpoint hab' hr' ht

theorem tick (h : Lockstep S R T) (hab : S a b) (hr : R s t) :
    (a.tick s).Related S R T (b.tick t) := by
  cases hp : a.flags.paused with
  | true =>
    rw [tick_paused s hp, tick_paused t ((h.paused hab).symm.trans hp), ← h.countPaused hab]
    refine ⟨?_, hr, h.silent, rfl⟩
    split
    · exact h.countCycle hab
    · exact hab
  | false =>
    rw [tick_running s hp, tick_running t ((h.paused hab).symm.trans hp)]
    exact h.step hab hr

theorem ticks (h : Lockstep S R T) (hab : S a b) (hr : R s t) (n : Nat)
    {trace trace' : Array String} (ht : T trace trace') :
    (ticks n a s trace).Related S R T (ticks n b t trace') := by
  induction n generalizing a b s t trace trace' with
  | zero => exact ⟨hab, hr, ht, rfl⟩
  | succ n ih =>
    have hrun := h.tick hab hr
    simp only [Cpu.ticks]
    generalize a.tick s = run at hrun ⊢
    generalize b.tick t = run' at hrun ⊢
    obtain ⟨a', s', lines, result⟩ := run
    obtain ⟨b', t', lines', _⟩ := run'
    obtain ⟨hab', hr', hlines, rfl⟩ := hrun
    cases result with
    | ok => exact ih hab' hr' (h.append ht hlines)
    | error e => exact ⟨hab', hr', h.append ht hlines, rfl⟩

theorem stepTick (h : Lockstep S R T) (hab : S a b) (hr : R s t) :
    (a.stepTick s).Related S R T (b.stepTick t) := by
  have hrun := h.tick (h.setPaused false hab) hr
  refine ⟨?_, hrun.host, hrun.trace, hrun.result⟩
  simp only [Cpu.stepTick, h.paused hab, h.paused hrun.cpu]
  exact h.setPaused _ hrun.cpu

end Lockstep

/-! ### Frames and single steps -/

namespace Simulation

theorem timed (h : Simulation S R T) (hab : S a b) (paused : Bool) :
    S (a.timed paused) (b.timed paused) := by
  cases paused with
  | true => exact hab
  | false => exact h.runTimers hab

theorem presented (h : Simulation S R T) {run : Run σ} {run' : Run τ}
    (hrun : run.Related S R T run') : (Cpu.present run).Related S R T (Cpu.present run') := by
  cases hd : run.cpu.flags.dirty with
  | false => rwa [present_clean hd, present_clean ((h.dirty hrun.cpu).symm.trans hd)]
  | true =>
    obtain ⟨hp, hr⟩ := h.present hrun.host
    rw [present_dirty hd, present_dirty ((h.dirty hrun.cpu).symm.trans hd), hp, hrun.result]
    exact ⟨h.shown hrun.cpu, hr, hrun.trace, rfl⟩

theorem runFrame (h : Simulation S R T) (hab : S a b) (hr : R s t) (n : Nat) :
    (a.runFrame s n).Related S R T (b.runFrame t n) := by
  have hrun := h.ticks hab hr n h.silent
  cases hf : faulted (Cpu.ticks n a s #[]) with
  | true =>
    rw [runFrame_of_fault hf, runFrame_of_fault (hrun.faulted_eq ▸ hf)]
    exact hrun
  | false =>
    rw [runFrame_of_not_fault hf, runFrame_of_not_fault (hrun.faulted_eq ▸ hf), ← h.paused hab]
    exact h.presented ⟨h.timed hrun.cpu _, hrun.host, hrun.trace, hrun.result⟩

theorem stepOnce (h : Simulation S R T) (hab : S a b) (hr : R s t) :
    (a.stepOnce s).Related S R T (b.stepOnce t) := by
  have hrun := h.stepTick hab hr
  cases hf : faulted (a.stepTick s) with
  | true =>
    rw [stepOnce_of_fault hf, stepOnce_of_fault (hrun.faulted_eq ▸ hf)]
    exact hrun
  | false =>
    rw [stepOnce_of_not_fault hf, stepOnce_of_not_fault (hrun.faulted_eq ▸ hf)]
    exact h.presented hrun

end Simulation

end Cpu

end Chip8
