import Chip8.Headless
import Chip8.Proofs.Lockstep
import Chip8.Proofs.Reachable

/-! What one frame comes to, by the ticks that it made and how the last of them ended. A frame that
begins in a pause is told from one that does not, and a fault from everything else. How often the
screen is shown is counted by a host around the host. -/

namespace Chip8

/-! ### Shown screens -/

/-- A host that counts how often it is shown the screen. -/
structure Counted (σ : Type) where
  host : σ
  presents : Nat

namespace Counted

variable {σ : Type} [Host σ]

instance : Host (Counted σ) where
  randomByte c :=
    let (b, host) := Host.randomByte c.host
    (b, { c with host })
  keys c :=
    let (keys, host) := Host.keys c.host
    (keys, { c with host })
  clear c := { c with host := Host.clear c.host }
  blit c sprite x y :=
    let (hit, host) := Host.blit c.host sprite x y
    (hit, { c with host })
  present c :=
    let (result, host) := Host.present c.host
    (result, ⟨host, c.presents + 1⟩)

/-- Instructions never show the screen, and the counter changes nothing else. -/
theorem lockstep (p : Nat) :
    Host.Lockstep fun (c : Counted σ) (host : σ) => c = ⟨host, p⟩ where
  randomByte := by
    rintro _ host rfl
    exact ⟨rfl, rfl⟩
  keys := by
    rintro _ host rfl
    exact ⟨rfl, rfl⟩
  clear := by
    rintro _ host rfl
    rfl
  blit := by
    rintro _ host sprite x y rfl
    exact ⟨rfl, rfl⟩

end Counted

variable {σ : Type}

/-- The same run on a counting host. -/
def Run.counted (run : Run σ) (p : Nat) : Run (Counted σ) :=
  ⟨run.cpu, ⟨run.host, p⟩, run.trace, run.result⟩

variable [Host σ]

/-- A frame shows the screen so many times, which is all that a counting host sees of it. -/
def Cpu.Shows (cpu : Cpu) (host : σ) (n times : Nat) : Prop :=
  ∀ p, cpu.runFrame (⟨host, p⟩ : Counted σ) n = (cpu.runFrame host n).counted (p + times)

namespace Cpu

theorem ticks_counted (n : Nat) (cpu : Cpu) (host : σ) (p : Nat) (trace : Array String) :
    ticks n cpu (⟨host, p⟩ : Counted σ) trace = (ticks n cpu host trace).counted p := by
  have h := ticks_agree (Counted.lockstep p) n cpu (rfl : (⟨host, p⟩ : Counted σ) = _) trace
  generalize ticks n cpu (⟨host, p⟩ : Counted σ) trace = run at h ⊢
  obtain ⟨_, _, _, _⟩ := run
  obtain ⟨rfl, rfl, rfl, rfl⟩ := h
  rfl

theorem present_counted_clean {run : Run σ} (p : Nat) (h : run.cpu.flags.dirty = false) :
    present (run.counted p) = (present run).counted p := by
  rw [present_clean h]
  exact present_clean h

theorem present_counted_dirty {run : Run σ} (p : Nat) (h : run.cpu.flags.dirty = true) :
    present (run.counted p) = (present run).counted (p + 1) := by
  rw [present_dirty h]
  exact present_dirty h

end Cpu

/-! ### Ticks of a running machine -/

namespace Machine

/-- Before the first of `k` ticks there was something to show, or one of them drew. -/
def Drawn (m : Machine σ) (k : Nat) : Prop :=
  m.cpu.flags.dirty = true ∨ ∃ j < k, ∃ i, (next^[j] m).cpu.executed = some i ∧ i.draws = true

theorem drawn_succ (m : Machine σ) (k : Nat) :
    m.Drawn (k + 1) ↔
      m.Drawn k ∨ ∃ i, (next^[k] m).cpu.executed = some i ∧ i.draws = true := by
  unfold Drawn
  rw [or_assoc]
  refine or_congr_right ?_
  constructor
  · rintro ⟨j, hj, hd⟩
    rcases Nat.lt_succ_iff_lt_or_eq.mp hj with hlt | rfl
    · exact .inl ⟨j, hlt, hd⟩
    · exact .inr hd
  · rintro (⟨j, hj, hd⟩ | hd)
    · exact ⟨j, by omega, hd⟩
    · exact ⟨k, by omega, hd⟩

theorem dirty_iterate (m : Machine σ) (k : Nat) :
    (next^[k] m).cpu.flags.dirty = true ↔ m.Drawn k := by
  induction k with
  | zero => simp [Drawn]
  | succ k ih =>
    rw [drawn_succ, ← ih, Function.iterate_succ_apply', or_comm]
    have ht := (next^[k] m).cpu.tick_dirty (next^[k] m).host
    have hn : (next^[k] m).next.cpu = ((next^[k] m).cpu.tick (next^[k] m).host).cpu := rfl
    rw [hn, ht, Bool.or_eq_true, Option.any_eq_true]

/-- As long as all ticks end well, a running machine goes on running, and comes to no breakpoint. -/
theorem running_iterate {m : Machine σ} (hp : m.cpu.flags.paused = false) {k : Nat}
    (h : ∀ j < k, (next^[j] m).tick.result = .ok ()) :
    (next^[k] m).cpu.flags.paused = false ∧ (next^[k] m).cpu.breakpoints = m.cpu.breakpoints ∧
      (next^[k] m).cpu.cycle = m.cpu.cycle + k ∧
      (0 < k → (next^[k] m).cpu.pc ∉ m.cpu.breakpoints) := by
  induction k with
  | zero => exact ⟨hp, rfl, rfl, by simp⟩
  | succ k ih =>
    obtain ⟨hp', hb, hc, _⟩ := ih fun j hj => h j (by omega)
    obtain ⟨hrun, hpc⟩ := Cpu.tick_ok hp' (h k (by omega))
    rw [Function.iterate_succ_apply']
    refine ⟨hrun, ?_, ?_, fun _ => ?_⟩
    · rw [← hb]
      exact Cpu.tick_breakpoints _ _
    · rw [← Nat.add_assoc, ← hc]
      exact Cpu.tick_cycle _ hp'
    · rw [← hb]
      exact hpc

/-- Every tick that a running machine makes is counted, and only the first may start at a
breakpoint. -/
theorem Makes.running {m : Machine σ} {n k : Nat} {result : Except Error Unit}
    (h : m.Makes n k result) (hp : m.cpu.flags.paused = false) :
    (next^[k] m).cpu.cycle = m.cpu.cycle + k ∧
      ∀ j, 0 < j → j < k → (next^[j] m).cpu.pc ∉ m.cpu.breakpoints := by
  have hrun (j : Nat) (hj : j < k) :=
    running_iterate hp fun i (hi : i < j) => h.ok_of_lt i (by omega)
  constructor
  · cases k with
    | zero => rfl
    | succ j =>
      obtain ⟨hp', _, hc, _⟩ := hrun j (by omega)
      rw [Function.iterate_succ_apply', ← Nat.add_assoc, ← hc]
      exact Cpu.tick_cycle _ hp'
  · intro j hpos hj
    obtain ⟨_, _, _, hpc⟩ := hrun j hj
    exact hpc hpos

end Machine

/-! ### Frames -/

namespace Cpu

variable {cpu : Cpu} {host : σ}

theorem runFrame_paused (h : cpu.flags.paused = true) (n : Nat) :
    (cpu.runFrame host n).cpu =
      { cpu with
        cycle := cpu.cycle + if cpu.flags.countPaused then n else 0
        flags.dirty := false } := by
  have ht : ticks n cpu host #[] = _ := ticks_paused h n #[]
  have hf : faulted (ticks n cpu host #[]) = false := by
    rw [ht]
    rfl
  rw [runFrame_of_not_fault hf, present_cpu, ht, h]
  rfl

/-- A fault ends the frame with its tick: the timers and the screen are left as they are. -/
theorem runFrame_fault {n : Nat} {e : Error} (h : (ticks n cpu host #[]).result = .error e)
    (he : e.isBreakpoint = false) :
    cpu.runFrame host n = ticks n cpu host #[] ∧ cpu.Shows host n 0 := by
  have hf : faulted (ticks n cpu host #[]) = true := faulted_eq_true_iff.mpr ⟨e, h, he⟩
  refine ⟨runFrame_of_fault hf, fun p => ?_⟩
  have ht := ticks_counted n cpu host p #[]
  rw [runFrame_of_fault hf, runFrame_of_fault (by rw [ht]; exact hf), ht]
  rfl

/-- Without a fault the timers run down, unless the frame began in a pause, and nothing is left to
show. -/
theorem runFrame_timed {n : Nat} (h : faulted (ticks n cpu host #[]) = false) :
    (cpu.runFrame host n).cpu = { (ticks n cpu host #[]).cpu with
      delay := if cpu.flags.paused then (ticks n cpu host #[]).cpu.delay
        else lowered (ticks n cpu host #[]).cpu.delay
      sound := if cpu.flags.paused then (ticks n cpu host #[]).cpu.sound
        else lowered (ticks n cpu host #[]).cpu.sound
      flags.dirty := false } := by
  rw [runFrame_of_not_fault h, present_cpu]
  cases cpu.flags.paused <;> rfl

/-- Only ticks count cycles. -/
theorem runFrame_cycle (n : Nat) :
    (cpu.runFrame host n).cpu.cycle = (ticks n cpu host #[]).cpu.cycle := by
  cases h : faulted (ticks n cpu host #[]) with
  | true => rw [runFrame_of_fault h]
  | false => rw [runFrame_timed h]

/-- The run that a frame without a fault may show: the ticks, and the timers after them. -/
def toShow (cpu : Cpu) (host : σ) (n : Nat) : Run σ :=
  { ticks n cpu host #[] with cpu := (ticks n cpu host #[]).cpu.timed cpu.flags.paused }

theorem toShow_dirty (cpu : Cpu) (host : σ) (n : Nat) :
    (cpu.toShow host n).cpu.flags.dirty = (ticks n cpu host #[]).cpu.flags.dirty := by
  rw [toShow, timed_flags]

theorem runFrame_toShow {n : Nat} (h : faulted (ticks n cpu host #[]) = false) :
    cpu.runFrame host n = present (cpu.toShow host n) :=
  runFrame_of_not_fault h

theorem runFrame_counted {n : Nat} (h : faulted (ticks n cpu host #[]) = false) (p : Nat) :
    cpu.runFrame (⟨host, p⟩ : Counted σ) n = present ((cpu.toShow host n).counted p) := by
  have ht := ticks_counted n cpu host p #[]
  rw [runFrame_of_not_fault (by rw [ht]; exact h), ht]
  rfl

theorem runFrame_clean {n : Nat} (h : faulted (ticks n cpu host #[]) = false)
    (hd : (ticks n cpu host #[]).cpu.flags.dirty = false) :
    (cpu.runFrame host n).host = (ticks n cpu host #[]).host ∧
      (cpu.runFrame host n).result = (ticks n cpu host #[]).result ∧ cpu.Shows host n 0 := by
  have hs : (cpu.toShow host n).cpu.flags.dirty = false := (toShow_dirty ..).trans hd
  have hr := runFrame_toShow h
  refine ⟨?_, ?_, fun p => ?_⟩
  · rw [hr, present_clean hs]
    rfl
  · rw [hr, present_clean hs]
    rfl
  · rw [runFrame_counted h, hr]
    exact present_counted_clean p hs

theorem runFrame_dirty {n : Nat} (h : faulted (ticks n cpu host #[]) = false)
    (hd : (ticks n cpu host #[]).cpu.flags.dirty = true) :
    (cpu.runFrame host n).host = (Host.present (ticks n cpu host #[]).host).2 ∧
      (cpu.runFrame host n).result =
        (Host.present (ticks n cpu host #[]).host).1.bind (fun _ => (ticks n cpu host #[]).result) ∧
      cpu.Shows host n 1 := by
  have hs : (cpu.toShow host n).cpu.flags.dirty = true := (toShow_dirty ..).trans hd
  have hr := runFrame_toShow h
  refine ⟨?_, ?_, fun p => ?_⟩
  · rw [hr, present_dirty hs]
    rfl
  · rw [hr, present_dirty hs]
    rfl
  · rw [runFrame_counted h, hr]
    exact present_counted_dirty p hs

/-- All of a frame. It makes `k` ticks and ends with a fault of the last one, or goes on to the timers
and the screen. -/
theorem runFrame_contract (cpu : Cpu) (host : σ) (n : Nat) :
    ∃ k result, Machine.Makes ⟨cpu, host⟩ n k result ∧
      let machine (j : Nat) : Machine σ := Machine.next^[j] ⟨cpu, host⟩
      let frame := cpu.runFrame host n
      (∀ e, result = .error e → e.isBreakpoint = false →
        frame.machine = machine k ∧ frame.result = .error e ∧ cpu.Shows host n 0) ∧
      ((∀ e, result = .error e → e.isBreakpoint = true) →
        frame.cpu = { (machine k).cpu with
          delay := if cpu.flags.paused then (machine k).cpu.delay else lowered (machine k).cpu.delay
          sound := if cpu.flags.paused then (machine k).cpu.sound else lowered (machine k).cpu.sound
          flags.dirty := false } ∧
        (Machine.Drawn ⟨cpu, host⟩ k →
          frame.host = (Host.present (machine k).host).2 ∧
          frame.result = (Host.present (machine k).host).1.bind (fun _ => result) ∧
          cpu.Shows host n 1) ∧
        (¬Machine.Drawn ⟨cpu, host⟩ k →
          frame.host = (machine k).host ∧ frame.result = result ∧ cpu.Shows host n 0)) ∧
      (cpu.flags.paused = false →
        frame.cpu.cycle = cpu.cycle + k ∧
        ∀ j, 0 < j → j < k → (machine j).cpu.pc ∉ cpu.breakpoints) ∧
      (cpu.flags.paused = true →
        frame.cpu = { cpu with
          cycle := cpu.cycle + if cpu.flags.countPaused then n else 0
          flags.dirty := false }) := by
  obtain ⟨k, hk, hm⟩ := Machine.makes_ticks n ⟨cpu, host⟩ #[]
  have hcpu : (ticks n cpu host #[]).cpu = (Machine.next^[k] ⟨cpu, host⟩).cpu :=
    congrArg Machine.cpu hm
  have hhost : (ticks n cpu host #[]).host = (Machine.next^[k] ⟨cpu, host⟩).host :=
    congrArg Machine.host hm
  have hdrawn : (ticks n cpu host #[]).cpu.flags.dirty = true ↔ Machine.Drawn ⟨cpu, host⟩ k := by
    rw [hcpu]
    exact Machine.dirty_iterate ⟨cpu, host⟩ k
  refine ⟨k, _, hk, ?_⟩
  intro machine frame
  refine ⟨?fault, ?shown, ?running, fun hp => runFrame_paused hp n⟩
  case fault =>
    intro e he hb
    obtain ⟨hf, hs⟩ := runFrame_fault he hb
    have hm' : frame.machine = machine k := (congrArg Run.machine hf).trans hm
    exact ⟨hm', (congrArg Run.result hf).trans he, hs⟩
  case shown =>
    intro hn
    have hf : faulted (ticks n cpu host #[]) = false := faulted_eq_false hn
    refine ⟨?_, fun hd => ?_, fun hd => ?_⟩
    · have ht := runFrame_timed hf
      rwa [hcpu] at ht
    · have hs := runFrame_dirty hf (hdrawn.mpr hd)
      rwa [hhost] at hs
    · have hd' : (ticks n cpu host #[]).cpu.flags.dirty = false := by
        rw [Bool.eq_false_iff, Ne, hdrawn]
        exact hd
      have hs := runFrame_clean hf hd'
      rwa [hhost] at hs
  case running =>
    intro hp
    obtain ⟨hc, hpc⟩ := hk.running hp
    have hcycle : frame.cpu.cycle = _ := runFrame_cycle n
    rw [hcpu] at hcycle
    exact ⟨hcycle.trans hc, hpc⟩

/-- A frame in a pause does not count cycles of itself; a flag has to ask for it. -/
theorem runFrame_uncounted :
    let host := Headless.seeded 0
    let cpu := (initial.perform host (.setFlags { Flags.none with paused := true })).cpu
    Reachable cpu ∧ cpu.flags.paused = true ∧ (cpu.runFrame host 1).cpu.cycle ≠ cpu.cycle + 1 := by
  intro host cpu
  have hp : cpu.flags.paused = true := rfl
  refine ⟨.perform host _ .initial, hp, ?_⟩
  rw [runFrame_paused hp]
  exact Nat.zero_ne_one

end Cpu

end Chip8
