import Chip8.Headless
import Chip8.Proofs.Fault
import Chip8.Proofs.Panel
import Mathlib.Control.Monad.Basic

/-! Breakpoints do not change what a program does. A breakpoint is looked for when an instruction is
over, and all that comes of it is a pause; so a machine that is let go on after each breakpoint is,
tick by tick, the machine without breakpoints. -/

namespace Chip8

/-- What breakpoints make of a run without any: if it ended well, they are looked for. -/
def Run.withBreakpoints {σ : Type} (run : Run σ) (breakpoints : List UInt16) : Run σ :=
  match run with
  | ⟨cpu, host, trace, .ok ()⟩ => ({ cpu with breakpoints } : Cpu).checkBreakpoint host trace
  | ⟨cpu, host, trace, .error e⟩ => ⟨{ cpu with breakpoints }, host, trace, .error e⟩

namespace Run

variable {σ : Type} {run : Run σ} {breakpoints : List UInt16}

theorem withBreakpoints_hit (h : run.result = .ok ()) (hb : run.cpu.pc ∈ breakpoints) :
    run.withBreakpoints breakpoints =
      ⟨{ run.cpu with breakpoints, flags.paused := true }, run.host, run.trace,
        .error (.breakpointHit run.cpu.pc run.cpu.fetch)⟩ := by
  obtain ⟨cpu, host, trace, _⟩ := run
  obtain rfl := h
  exact Cpu.checkBreakpoint_hit host trace hb

theorem withBreakpoints_miss (h : run.result = .ok () → run.cpu.pc ∉ breakpoints) :
    run.withBreakpoints breakpoints =
      ⟨{ run.cpu with breakpoints }, run.host, run.trace, run.result⟩ := by
  obtain ⟨cpu, host, trace, result⟩ := run
  cases result with
  | ok => exact Cpu.checkBreakpoint_miss host trace (h rfl)
  | error e => rfl

end Run

namespace Cpu

variable {σ : Type} [Host σ]

/-- Without breakpoints a tick is over with its instruction; with them, they are looked for next. -/
theorem tick_withBreakpoints {cpu : Cpu} (host : σ) (hp : cpu.flags.paused = false)
    (hb : cpu.breakpoints = []) (breakpoints : List UInt16) :
    ({ cpu with breakpoints } : Cpu).tick host = (cpu.tick host).withBreakpoints breakpoints := by
  have hp' : ({ cpu with breakpoints } : Cpu).flags.paused = false := hp
  rw [tick_running host hp']
  obtain ⟨h, _⟩ | ⟨e, _, hf, ht⟩ | ⟨i, done, _, hi, hf, rfl, ⟨_, ht⟩ | ⟨hmem, _⟩⟩ :=
    cpu.tick_cases host
  · simp [hp] at h
  · have hf' : ({ cpu with breakpoints } : Cpu).pendingFault = some e := hf
    rw [ht, step_of_fault host hf']
    rfl
  · have hi' : Instruction.decode ⟨({ cpu with breakpoints } : Cpu).fetch⟩ = some i := hi
    have hf' : ({ cpu with breakpoints } : Cpu).faultOf i = none := by rw [← hf]; cases i <;> rfl
    have he : ({ cpu with breakpoints } : Cpu).countCycle.execute host i = _ :=
      execute_withBreakpoints cpu.countCycle host i breakpoints
    rw [ht, step_of_decode host hi' hf', he]
    rfl
  · simp [hb] at hmem

end Cpu

namespace Machine

variable {σ : Type} [Host σ]

def withBreakpoints (m : Machine σ) (breakpoints : List UInt16) : Machine σ :=
  { m with cpu.breakpoints := breakpoints }

/-- The machine after a tick, let go on if a breakpoint has paused it. -/
def resumed (m : Machine σ) : Machine σ :=
  match m.tick.result with
  | .error (.breakpointHit _ _) => { m.next with cpu.flags.paused := false }
  | _ => m.next

/-- The machine runs, and has no breakpoints. -/
structure Free (m : Machine σ) : Prop where
  running : m.cpu.flags.paused = false
  unbroken : m.cpu.breakpoints = []

theorem Free.tick_eq {m : Machine σ} (h : m.Free) (breakpoints : List UInt16) :
    (m.withBreakpoints breakpoints).tick = m.tick.withBreakpoints breakpoints :=
  Cpu.tick_withBreakpoints m.host h.running h.unbroken breakpoints

/-- Every error of a free machine is a fault. -/
theorem Free.isBreakpoint_eq_false {m : Machine σ} (h : m.Free) {e : Error}
    (he : m.tick.result = .error e) : e.isBreakpoint = false := by
  have ht : (m.cpu.tick m.host).result = .error e := he
  obtain ⟨_, hr⟩ | ⟨e', _, hf, hr⟩ | ⟨i, done, _, _, _, rfl, ⟨_, hr⟩ | ⟨hb, _⟩⟩ :=
    m.cpu.tick_cases m.host
  · simp [hr] at ht
  · obtain rfl : e' = e := by simpa [hr] using ht
    obtain rfl | rfl | rfl := Cpu.pendingFault_cases hf
    · rfl
    · rfl
    · rfl
  · simp [hr] at ht
  · simp [h.unbroken] at hb

theorem Free.next {m : Machine σ} (h : m.Free) : m.next.Free where
  running := by
    cases hr : m.tick.result with
    | ok => exact (Cpu.tick_ok h.running hr).1
    | error e => exact Cpu.tick_fault_running hr (h.isBreakpoint_eq_false hr)
  unbroken := (Cpu.tick_breakpoints _ _).trans h.unbroken

theorem Free.iterate {m : Machine σ} (h : m.Free) (n : Nat) : (Machine.next^[n] m).Free :=
  Function.Iterate.rec Free h (fun _ => Free.next) n

/-- Whether or not a breakpoint is met, going on leads to where the free machine is. -/
theorem Free.resumed_eq {m : Machine σ} (h : m.Free) (breakpoints : List UInt16) :
    (m.withBreakpoints breakpoints).resumed = m.next.withBreakpoints breakpoints := by
  by_cases hit : m.tick.result = .ok () ∧ m.tick.cpu.pc ∈ breakpoints
  · have ht := (h.tick_eq breakpoints).trans (Run.withBreakpoints_hit hit.1 hit.2)
    have hp : m.tick.cpu.flags.paused = false := h.next.running
    simp only [resumed, Machine.next, ht]
    simp only [withBreakpoints, Run.machine, ← hp]
  · have ht := (h.tick_eq breakpoints).trans (Run.withBreakpoints_miss fun ho hb => hit ⟨ho, hb⟩)
    have hr : ∀ a w, m.tick.result ≠ .error (.breakpointHit a w) := by
      intro a w he
      cases h.isBreakpoint_eq_false he
    -- `hr` rules out the other branch
    simp only [resumed, Machine.next, ht]
    rfl

theorem Free.resumed_iterate {m : Machine σ} (h : m.Free) (breakpoints : List UInt16) (n : Nat) :
    Machine.resumed^[n] (m.withBreakpoints breakpoints) =
      (Machine.next^[n] m).withBreakpoints breakpoints := by
  induction n with
  | zero => rfl
  | succ n ih =>
    rw [Function.iterate_succ_apply', Function.iterate_succ_apply', ih]
    exact (h.iterate n).resumed_eq breakpoints

/-- With breakpoints, and going on after each of them, a machine is at every tick where it is without
them, and ticks like it; only where it would come to a breakpoint, it tells so and pauses. -/
theorem breakpoints_transparent {cpu : Cpu} (hp : cpu.flags.paused = false)
    (breakpoints : List UInt16) (host : σ) (n : Nat) :
    let broken : Machine σ := Machine.resumed^[n] ⟨{ cpu with breakpoints }, host⟩
    let free : Machine σ := Machine.next^[n] ⟨{ cpu with breakpoints := [] }, host⟩
    broken = ⟨{ free.cpu with breakpoints }, free.host⟩ ∧
    broken.tick.cpu =
      { free.tick.cpu with breakpoints, flags.paused := broken.tick.cpu.flags.paused } ∧
    broken.tick.host = free.tick.host ∧ broken.tick.trace = free.tick.trace ∧
    (∀ e, e.isBreakpoint = false →
      (broken.tick.result = .error e ↔ free.tick.result = .error e)) ∧
    ∀ addr next, broken.tick.result = .error (.breakpointHit addr next) ↔
      free.tick.result = .ok () ∧ free.tick.cpu.pc ∈ breakpoints ∧
        addr = free.tick.cpu.pc ∧ next = free.tick.cpu.memory.readWord addr.toNat := by
  intro broken free
  have hstart : Free (⟨{ cpu with breakpoints := [] }, host⟩ : Machine σ) := ⟨hp, rfl⟩
  have hfree : free.Free := hstart.iterate n
  have hbroken : broken = free.withBreakpoints breakpoints := hstart.resumed_iterate breakpoints n
  refine ⟨hbroken, ?_⟩
  rw [hbroken, hfree.tick_eq]
  have hfault : ∀ addr next, free.tick.result ≠ .error (.breakpointHit addr next) := by
    intro addr next he
    cases hfree.isBreakpoint_eq_false he
  by_cases hit : free.tick.result = .ok () ∧ free.tick.cpu.pc ∈ breakpoints
  · obtain ⟨ho, hb⟩ := hit
    rw [Run.withBreakpoints_hit ho hb]
    refine ⟨rfl, rfl, rfl, fun e he => ?_, fun addr next => ?_⟩
    · rw [ho]
      constructor
      · rintro ⟨⟩
        cases he
      · rintro ⟨⟩
    · constructor
      · rintro ⟨⟩
        exact ⟨ho, hb, rfl, rfl⟩
      · rintro ⟨_, _, rfl, rfl⟩
        rfl
  · rw [Run.withBreakpoints_miss fun ho hb => hit ⟨ho, hb⟩]
    refine ⟨rfl, rfl, rfl, fun e he => Iff.rfl, fun addr next => ?_⟩
    constructor
    · intro he
      exact absurd he (hfault addr next)
    · rintro ⟨ho, hb, _⟩
      exact absurd ⟨ho, hb⟩ hit

/-- A jump onto itself comes to its breakpoint with every tick, and goes on with it. -/
theorem breakpoints_transparent_loop :
    let host := Headless.seeded 0
    let cpu := (Cpu.initial.perform host (.writeWord 0x200 0x1200)).cpu
    let broken (n : Nat) : Machine Headless :=
      Machine.resumed^[n] ⟨{ cpu with breakpoints := [0x200, 0xffff, 0x200] }, host⟩
    cpu.flags.paused = false ∧ (broken 0).tick.result = .error (.breakpointHit 0x200 0x1200) ∧
      (broken 1).tick.result = .error (.breakpointHit 0x200 0x1200) := by
  intro host cpu broken
  have hp : cpu.flags.paused = false := rfl
  obtain ⟨_, _, _, _, _, hfirst⟩ := breakpoints_transparent hp [0x200, 0xffff, 0x200] host 0
  obtain ⟨_, _, _, _, _, hsecond⟩ := breakpoints_transparent hp [0x200, 0xffff, 0x200] host 1
  refine ⟨hp, (hfirst _ _).mpr ?_, (hsecond _ _).mpr ?_⟩
  · decide +kernel
  · decide +kernel

end Machine

end Chip8
