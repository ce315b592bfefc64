import Chip8.Command.Snapshot
import Chip8.Proofs.Breakpoint
import Chip8.Proofs.Waiting

/-! Why a run that nobody attends may stop before its last frame. A frame that ends with an error has
met a fault, which every later frame meets again at once; a frame that ends waiting for a key has
shown all there was to show, and waits on, since nobody presses one. Either way no later frame touches
the host any more, so the screen is already the one that all the frames would leave. -/

namespace Chip8

namespace Machine

section Frames

variable {σ : Type} [Host σ] {m : Machine σ}

/-- The machine after a frame, however the frame ended. -/
def frame (steps : Nat) (m : Machine σ) : Machine σ := (m.cpu.runFrame m.host steps).machine

theorem Free.frame (h : m.Free) (steps : Nat) : (m.frame steps).Free := by
  have hfree : (m.frame steps).cpu.flags.paused = false ∧ (m.frame steps).cpu.breakpoints = [] := by
    refine Cpu.runFrame_induction
      (P := fun cpu => cpu.flags.paused = false ∧ cpu.breakpoints = []) ?_ (fun _ h => h)
      (fun _ h => h) ⟨h.running, h.unbroken⟩ m.host steps
    rintro cpu host ⟨hp, hb⟩
    have hn : (Machine.mk cpu host).next.Free := Free.next ⟨hp, hb⟩
    exact ⟨hn.running, hn.unbroken⟩
  exact ⟨hfree.1, hfree.2⟩

/-- Ticks of a free machine that end with an error end at a fault, which is there still. -/
theorem Free.ticks_error (h : m.Free) {n : Nat} {trace : Array String} {e : Error}
    (he : (Cpu.ticks n m.cpu m.host trace).result = .error e) :
    0 < n ∧ e.isBreakpoint = false ∧
      (Cpu.ticks n m.cpu m.host trace).cpu.pendingFault = some e := by
  obtain ⟨k, hk, hm⟩ := makes_ticks n m trace
  cases k with
  | zero => cases he.symm.trans (hk.result_zero rfl)
  | succ j =>
    have hj := h.iterate j
    have hr : (Machine.next^[j] m).tick.result = .error e := (hk.result_succ j rfl).trans he
    have hb := hj.isBreakpoint_eq_false hr
    have hf : (Machine.next^[j] m).cpu.pendingFault = some e :=
      (Cpu.tick_error_iff hj.running hb).mp hr
    have hcpu : (Cpu.ticks n m.cpu m.host trace).cpu =
        { (Machine.next^[j] m).cpu with cycle := (Machine.next^[j] m).cpu.cycle + 1 } := by
      refine (congrArg Machine.cpu hm).trans ?_
      rw [Function.iterate_succ_apply', Machine.next, Machine.tick, Cpu.tick_of_fault _ hj.running hf]
      rfl
    refine ⟨by have := hk.le; omega, hb, ?_⟩
    rw [hcpu]
    exact hf

/-- Frames of so many ticks leave the host alone from now on: their first tick is a fault, or all
their ticks wait for a key that is not held, and there is nothing to show. -/
inductive Asleep (steps : Nat) (m : Machine σ) : Prop
  -- a frame without ticks meets no fault, and would show what the fault has kept from the screen
  | faulty {e : Error} : m.cpu.pendingFault = some e → 0 < steps → Asleep steps m
  | waiting {x : Nat} : m.cpu.AtWait x → Host.keys m.host = (0, m.host) →
      m.cpu.flags.dirty = false → Asleep steps m

end Frames

end Machine

namespace Cpu

variable {σ : Type} [Host σ] {cpu : Cpu}

theorem runFrame_of_pendingFault {e : Error} (host : σ) (hp : cpu.flags.paused = false)
    (hf : cpu.pendingFault = some e) {steps : Nat} (hs : 0 < steps) :
    (cpu.runFrame host steps).cpu = { cpu with cycle := cpu.cycle + 1 } ∧
      (cpu.runFrame host steps).host = host := by
  obtain ⟨n, rfl⟩ : ∃ n, steps = n + 1 := ⟨steps - 1, by omega⟩
  have ht : ticks (n + 1) cpu host #[] =
      ⟨{ cpu with cycle := cpu.cycle + 1 }, host, #[] ++ cpu.traceNext cpu.fetch, .error e⟩ := by
    simp only [ticks, tick_of_fault host hp hf]
  have hb : e.isBreakpoint = false := by
    obtain rfl | rfl | rfl := pendingFault_cases hf <;> rfl
  have hfault : faulted (ticks (n + 1) cpu host #[]) = true :=
    faulted_eq_true_iff.mpr ⟨e, by rw [ht], hb⟩
  rw [runFrame_of_fault hfault, ht]
  exact ⟨rfl, rfl⟩

theorem AtWait.runFrame {host : σ} {x : Nat} (h : cpu.AtWait x) (hp : cpu.flags.paused = false)
    (hb : cpu.pc ∉ cpu.breakpoints) (hk : Host.keys host = (0, host))
    (hd : cpu.flags.dirty = false) (steps : Nat) :
    (cpu.runFrame host steps).cpu.AtWait x ∧ (cpu.runFrame host steps).cpu.flags.dirty = false ∧
      (cpu.runFrame host steps).host = host := by
  obtain ⟨lines, ht⟩ := h.ticks hp hb hk steps #[]
  have hfault : faulted (Cpu.ticks steps cpu host #[]) = false := by
    rw [ht]
    rfl
  rw [runFrame_of_not_fault hfault, ht, hp, present_clean hd]
  exact ⟨h, hd, rfl⟩

end Cpu

namespace Machine

section Sleep

variable {σ : Type} [Host σ] {m : Machine σ} {steps : Nat}

theorem Asleep.frame (h : m.Asleep steps) (hfree : m.Free) :
    (m.frame steps).Asleep steps ∧ (m.frame steps).host = m.host := by
  cases h with
  | @faulty e hf hs =>
    obtain ⟨hcpu, hhost⟩ := Cpu.runFrame_of_pendingFault m.host hfree.running hf hs
    have hf' : (m.frame steps).cpu.pendingFault = some e :=
      (congrArg Cpu.pendingFault hcpu).trans hf
    exact ⟨.faulty hf' hs, hhost⟩
  | waiting hw hk hd =>
    have hb : m.cpu.pc ∉ m.cpu.breakpoints := by simp [hfree.unbroken]
    obtain ⟨hw', hd', hhost⟩ := hw.runFrame hfree.running hb hk hd steps
    refine ⟨.waiting hw' ?_ hd', hhost⟩
    rw [Machine.frame, Run.machine, hhost]
    exact hk

/-- A machine that is asleep never touches its host again. -/
theorem Asleep.host_iterate (h : m.Asleep steps) (hfree : m.Free) (n : Nat) :
    ((Machine.frame steps)^[n] m).host = m.host := by
  induction n generalizing m with
  | zero => rfl
  | succ n ih =>
    obtain ⟨hs, hhost⟩ := h.frame hfree
    rw [Function.iterate_succ_apply, ih hs (hfree.frame steps), hhost]

end Sleep

end Machine

namespace Headless

/-- Showing the screen never fails here. -/
theorem present_result (run : Run Headless) : (Cpu.present run).result = run.result := by
  cases hd : run.cpu.flags.dirty with
  | true => rw [Cpu.present_dirty hd]; rfl
  | false => rw [Cpu.present_clean hd]

/-- So a frame ends as its ticks do. -/
theorem runFrame_result (cpu : Cpu) (host : Headless) (steps : Nat) :
    (cpu.runFrame host steps).result = (Cpu.ticks steps cpu host #[]).result := by
  cases hf : Cpu.faulted (Cpu.ticks steps cpu host #[]) with
  | true => rw [Cpu.runFrame_of_fault hf]
  | false => rw [Cpu.runFrame_of_not_fault hf, present_result]

/-- Nothing that a machine asks for presses a key. -/
theorem unheld_keeps : Host.Keeps fun host : Headless => host.keypad.mask = 0 where
  randomByte h := h
  keys h := h
  clear h := h
  blit _ _ _ h := h
  present h := h

end Headless

namespace Machine

/-- A machine that runs freely while no key is held. -/
structure Unattended (m : Machine Headless) : Prop where
  free : m.Free
  inPlace : m.cpu.WaitsInPlace
  unheld : m.host.keypad.mask = 0

variable {m : Machine Headless}

theorem Unattended.frame (h : m.Unattended) (steps : Nat) : (m.frame steps).Unattended where
  free := h.free.frame steps
  inPlace := h.inPlace.runFrame m.host steps
  unheld := m.cpu.runFrame_keeps Headless.unheld_keeps steps h.unheld

theorem Unattended.asleep_of_error (h : m.Unattended) {steps : Nat} {e : Error}
    (he : (m.cpu.runFrame m.host steps).result = .error e) : (m.frame steps).Asleep steps := by
  rw [Headless.runFrame_result] at he
  obtain ⟨hs, hb, hf⟩ := h.free.ticks_error he
  refine .faulty (e := e) ?_ hs
  rw [Machine.frame, Cpu.runFrame_of_fault (Cpu.faulted_eq_true_iff.mpr ⟨e, he, hb⟩)]
  exact hf

theorem Unattended.asleep_of_waiting (h : m.Unattended) {steps : Nat}
    (ho : (m.cpu.runFrame m.host steps).result = .ok ())
    (hw : (m.frame steps).cpu.flags.awaitingKey = true) : (m.frame steps).Asleep steps := by
  obtain ⟨x, hx⟩ := (h.frame steps).inPlace hw
  refine .waiting hx (congrArg (·, (m.frame steps).host) (h.frame steps).unheld) ?_
  rw [Headless.runFrame_result] at ho
  have hf : Cpu.faulted (Cpu.ticks steps m.cpu m.host #[]) = false := by rw [Cpu.faulted, ho]
  rw [Machine.frame, Run.machine, Cpu.runFrame_of_not_fault hf, Cpu.present_cpu]

end Machine

namespace Snapshot

theorem runFrames_host {m : Machine Headless} (h : m.Unattended) (speed left frame : Nat) :
    (runFrames speed left frame m.cpu m.host).host = ((Machine.frame speed)^[left] m).host := by
  induction left generalizing m frame with
  | zero => rfl
  | succ left ih =>
    rw [Function.iterate_succ_apply]
    have hnext := h.frame speed
    rcases hr : m.cpu.runFrame m.host speed with ⟨cpu, host, lines, result⟩
    have hresult : (m.cpu.runFrame m.host speed).result = result := by rw [hr]
    have hm : m.frame speed = ⟨cpu, host⟩ := by rw [Machine.frame, hr, Run.machine]
    cases result with
    | error e =>
      have hs := h.asleep_of_error hresult
      simp only [runFrames, hr]
      rw [hs.host_iterate hnext.free, hm]
    | ok =>
      have hs := h.asleep_of_waiting hresult
      rw [hm] at hnext hs ⊢
      simp only [runFrames, hr]
      split
      next hw => rw [(hs hw).host_iterate hnext.free]
      next => exact ih hnext _

/-- A machine that has just been made is attended by nobody. -/
theorem ofProgram_unattended {program : List UInt8} (h : program.length ≤ Memory.programRoom)
    (s : Settings) (entropy : Entropy) :
    ∃ cpu, Cpu.ofProgram program [] s.flags = .ok cpu ∧
      (Machine.mk cpu (Headless.ofEntropy entropy)).Unattended := by
  obtain ⟨memory, hcpu⟩ := Cpu.ofProgram_fits h [] s.flags
  have hw : s.flags.awaitingKey = false := rfl
  exact ⟨_, hcpu, ⟨rfl, rfl⟩, fun ha => absurd (hw.symm.trans ha) (by decide), rfl⟩

/-- The command prints the screen that the machine has after all the frames that were asked for, with
every error ignored and no stop anywhere, for every program that fits, all settings and every source
of random bytes. -/
theorem run_prints_last {program : String} {arguments : List String} {read : ReadFile}
    {s : Settings} (hs : commandLine.settings program arguments = .ok s) {contents : List UInt8}
    (hc : read.contents (s.file.getD "") = .ok contents)
    (hfits : contents.length ≤ Memory.programRoom) (unseeded : Entropy) :
    ∃ cpu, Cpu.ofProgram contents [] s.flags = .ok cpu ∧
      let host : Headless := .ofEntropy ((s.seed.map Entropy.seeded).getD unseeded)
      let last : Machine Headless := (Machine.frame s.speed)^[s.frames] ⟨cpu, host⟩
      let early : Result := runFrames s.speed s.frames 0 cpu host
      early.host = last.host ∧
        run program arguments read unseeded =
          .success (last.host.screen.print ++ if s.dump then early.cpu.dump else "") early.notes := by
  let entropy := (s.seed.map Entropy.seeded).getD unseeded
  obtain ⟨cpu, hcpu, hattended⟩ := ofProgram_unattended hfits s entropy
  refine ⟨cpu, hcpu, ?_⟩
  intro host last early
  have hhost : early.host = last.host := runFrames_host hattended s.speed s.frames 0
  have hmade : (read.contents (s.file.getD "") >>= (Cpu.ofProgram · [] s.flags)) = .ok cpu := by
    rw [hc]
    exact hcpu
  refine ⟨hhost, ?_⟩
  rw [← hhost, run, hs]
  simp only [hmade]
  rfl

/-- A program draws a glyph and then meets a fault, so the command stops in the first frame; the
screen is the one after sixty frames. -/
theorem run_prints_last_fault :
    let read : ReadFile := fun _ => .ok [0xd0, 0x15, 0x00, 0x00]
    let report := run "shot" ["rom.ch8"] read (.repeating [])
    report.notes = noteError 0 (.unimplementedInstruction 0x202 0x0000) ∧
      ∃ cpu, Cpu.ofProgram [0xd0, 0x15, 0x00, 0x00] [] .none = .ok cpu ∧
        report.output =
          ((Machine.frame 10)^[60] ⟨cpu, Headless.ofEntropy (.repeating [])⟩).host.screen.print := by
  intro read report
  obtain ⟨s, hs, hflags, hspeed, hframes, hseed, hdump⟩ : ∃ s : Settings,
      commandLine.settings "shot" ["rom.ch8"] = .ok s ∧ s.flags = .none ∧ s.speed = 10 ∧
        s.frames = 60 ∧ s.seed = none ∧ s.dump = false :=
    ⟨_, by rfl, by decide, by decide, by decide, by decide, by decide⟩
  have hc : read.contents (s.file.getD "") = .ok [0xd0, 0x15, 0x00, 0x00] := rfl
  obtain ⟨cpu, hcpu, -, hrun⟩ := run_prints_last hs hc (by decide) (.repeating [])
  rw [hflags] at hcpu
  refine ⟨by decide +kernel, cpu, hcpu, ?_⟩
  have hreport : report = _ := hrun
  rw [hreport, hspeed, hframes, hseed, hdump]
  simp only [Report.success, Option.map_none, Option.getD_none, Bool.false_eq_true, if_false,
    String.append_empty]

end Snapshot

end Chip8
