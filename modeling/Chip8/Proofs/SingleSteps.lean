import Chip8.Proofs.Drawing
import Chip8.Proofs.FrameContract
import Chip8.Proofs.Panel
import Chip8.Proofs.Sprites
import Chip8.Window.Host

/-! A frame against single steps. Single steps show the screen whenever something was drawn, and a
frame shows it once at its end. Showing the screen late comes to the same as showing it early, so a
frame is as many single steps with the timers run down once behind them. This needs a host that the
instructions see as a screen, a keypad and a random source, that shows the screen without failing,
and that changes nothing else when it does so. If showing the screen presses a key, the instructions
after it see more of single steps than of a frame. -/

namespace Chip8

/-! ### Devices -/

/-- All that instructions see of a host: a screen, a keypad, and a random source from which bytes
are drawn. -/
structure Devices {ε : Type} (draw : ε → UInt8 × ε) where
  screen : Screen
  keypad : Keypad
  source : ε

namespace Devices

variable {ε : Type} {draw : ε → UInt8 × ε}

/-- The mark is taken from the screen. -/
def unmarked (d : Devices draw) : Devices draw := { d with screen := d.screen.takeDirty.2 }

instance : Host (Devices draw) where
  randomByte d := ((draw d.source).1, { d with source := (draw d.source).2 })
  keys d := (d.keypad.mask, d)
  clear d := { d with screen := d.screen.clear }
  blit d sprite x y :=
    ((d.screen.blit sprite x y).1, { d with screen := (d.screen.blit sprite x y).2 })
  present d := (.ok (), d.unmarked)

/-- The same devices, but perhaps for the mark. -/
def EqButMark (s t : Devices draw) : Prop := ∃ mark, t = { s with screen.dirty := mark }

/-- The mark makes no difference to instructions. -/
theorem lockstep : Host.Lockstep (EqButMark : Devices draw → Devices draw → Prop) where
  randomByte := by
    rintro s _ ⟨mark, rfl⟩
    exact ⟨rfl, mark, rfl⟩
  keys := by
    rintro s _ ⟨mark, rfl⟩
    exact ⟨rfl, mark, rfl⟩
  clear := by
    rintro s _ ⟨mark, rfl⟩
    exact ⟨true, rfl⟩
  blit := by
    rintro s _ sprite x y ⟨mark, rfl⟩
    simp only [Host.blit, Screen.blit_withDirty]
    exact ⟨trivial, true, rfl⟩

end Devices

namespace Cpu

variable {σ : Type} [Host σ]

/-! ### The screen shown early or late -/

section Devices

variable {ε : Type} {draw : ε → UInt8 × ε}

/-- The same processor, but perhaps for something to show. -/
def EqButDirty (a b : Cpu) : Prop := ∃ dirty, b = { a with flags.dirty := dirty }

/-- Two machines do the same if it is only that one of them has something to show. -/
theorem eqButDirty_lockstep :
    Lockstep EqButDirty (Devices.EqButMark : Devices draw → Devices draw → Prop) Eq where
  paused := by rintro _ _ ⟨_, rfl⟩; rfl
  countPaused := by rintro _ _ ⟨_, rfl⟩; rfl
  pc := by rintro _ _ ⟨_, rfl⟩; rfl
  memory := by rintro _ _ ⟨_, rfl⟩; rfl
  breakpoints := by rintro _ _ ⟨_, rfl⟩; rfl
  countCycle := by
    rintro _ _ ⟨dirty, rfl⟩
    exact ⟨dirty, rfl⟩
  setPaused := by
    rintro _ _ _ ⟨dirty, rfl⟩
    exact ⟨dirty, rfl⟩
  execute := by
    rintro a _ _ t i ⟨dirty, rfl⟩ hr
    obtain ⟨hcpu, hhost, hfault⟩ := execute_agree Devices.lockstep a i hr
    rw [execute_withDirty a t i dirty]
    exact ⟨⟨i.draws || dirty, by rw [hcpu]⟩, hhost, hfault⟩
  silent := rfl
  traceNext := by rintro _ _ _ ⟨_, rfl⟩; rfl
  append hbefore hlines := by rw [hbefore, hlines]

/-- With nothing to show, there is no mark on the screen. -/
def Settled (cpu : Cpu) (host : Devices draw) : Prop :=
  cpu.flags.dirty = false → host.screen.dirty = false

theorem tick_settled {cpu : Cpu} {host : Devices draw} (h : Settled cpu host) :
    Settled (cpu.tick host).cpu (cpu.tick host).host := by
  intro hd
  rw [tick_dirty, Bool.or_eq_false_iff] at hd
  obtain ⟨hdraws, hdirty⟩ := hd
  have hmark : Host.Undisturbed fun host : Devices draw => host.screen.dirty = false := ⟨id, id⟩
  exact tick_undisturbed hmark hdraws (h hdirty)

theorem present_devices (run : Run (Devices draw)) :
    present run = ⟨{ run.cpu with flags.dirty := false },
      if run.cpu.flags.dirty then run.host.unmarked else run.host, run.trace, run.result⟩ := by
  cases hd : run.cpu.flags.dirty with
  | true => rw [present_dirty hd]; rfl
  | false => rw [present_clean hd, withDirty_eq hd]; rfl

theorem faulted_present (run : Run (Devices draw)) : faulted (present run) = faulted run := by
  rw [present_devices]
  rfl

theorem present_settled {run : Run (Devices draw)} (h : Settled run.cpu run.host) :
    present run =
      ⟨{ run.cpu with flags.dirty := false }, run.host.unmarked, run.trace, run.result⟩ := by
  rw [present_devices]
  split
  next => rfl
  next hd =>
    have hmark : run.host.unmarked = run.host := by
      rw [Devices.unmarked, Screen.takeDirty, ← h (Bool.eq_false_iff.mpr hd)]
    rw [hmark]

/-- Ticks come to the same whether the screen is shown before them or not, if it is shown after
them. -/
theorem present_ticks (run : Run (Devices draw)) (n : Nat) (trace : Array String) :
    present (ticks n (present run).cpu (present run).host trace) =
      present (ticks n run.cpu run.host trace) := by
  cases hd : run.cpu.flags.dirty with
  | false => rw [present_clean hd]
  | true =>
    have hlate : Settled run.cpu run.host := by
      intro h
      cases hd.symm.trans h
    let shown : Cpu := { run.cpu with flags.dirty := false }
    have hearly : Settled shown run.host.unmarked := fun _ => rfl
    have hrun : (ticks n run.cpu run.host trace).Related EqButDirty Devices.EqButMark Eq
        (ticks n shown run.host.unmarked trace) :=
      eqButDirty_lockstep.ticks ⟨false, rfl⟩ ⟨false, rfl⟩ n rfl
    obtain ⟨⟨_, hcpu⟩, ⟨_, hhost⟩, htrace, hresult⟩ := hrun
    rw [present_settled hlate]
    rw [present_settled (ticks_induction (fun _ _ => tick_settled) n trace hlate)]
    rw [present_settled (ticks_induction (fun _ _ => tick_settled) n trace hearly)]
    rw [hcpu, hhost, htrace, hresult]
    rfl

end Devices

/-- What has nothing to do with the screen can be done before it is shown or afterwards. -/
theorem present_map (f : Cpu → Cpu) (hdirty : ∀ cpu, (f cpu).flags.dirty = cpu.flags.dirty)
    (hshown : ∀ cpu, f { cpu with flags.dirty := false } = { f cpu with flags.dirty := false })
    (run : Run σ) :
    present { run with cpu := f run.cpu } = { present run with cpu := f (present run).cpu } := by
  cases hd : run.cpu.flags.dirty with
  | false =>
    rw [present_clean hd]
    exact present_clean ((hdirty run.cpu).trans hd)
  | true =>
    rw [present_dirty hd, hshown]
    exact present_dirty ((hdirty run.cpu).trans hd)

/-! ### Single steps -/

/-- Single steps until a number of them are made or one returns an error, after lines written
before. -/
def singleSteps : Nat → Cpu → σ → Array String → Run σ
  | 0, cpu, host, trace => ⟨cpu, host, trace, .ok ()⟩
  | n + 1, cpu, host, trace =>
    match cpu.stepOnce host with
    | ⟨cpu, host, lines, .ok ()⟩ => singleSteps n cpu host (trace ++ lines)
    | ⟨cpu, host, lines, .error e⟩ => ⟨cpu, host, trace ++ lines, .error e⟩

theorem stepTick_running {cpu : Cpu} (host : σ) (h : cpu.flags.paused = false) :
    cpu.stepTick host = cpu.tick host := by
  have hcpu : { cpu with flags.paused := false } = cpu := by
    rw [← h]
  simp only [stepTick, hcpu, h, Bool.or_false]

/-- A single step in a pause is one without, but that the pause goes on. -/
theorem stepOnce_paused {cpu : Cpu} (host : σ) (h : cpu.flags.paused = true) :
    cpu.stepOnce host =
      let step := ({ cpu with flags.paused := false } : Cpu).stepOnce host
      { step with cpu.flags.paused := true } := by
  let running : Cpu := { cpu with flags.paused := false }
  have hrunning : running.stepTick host = running.tick host := stepTick_running host rfl
  have hpaused : cpu.stepTick host =
      { running.tick host with cpu.flags.paused := true } := by
    simp only [stepTick, h, Bool.or_true]
    rfl
  rw [stepOnce_eq, stepOnce_eq, hpaused, hrunning]
  have hfault : faulted { running.tick host with cpu.flags.paused := true } =
      faulted (running.tick host) := rfl
  rw [hfault]
  split
  · rfl
  · exact present_map (fun cpu => { cpu with flags.paused := true }) (fun _ => rfl)
      (fun _ => rfl) (running.tick host)

section Devices

variable {ε : Type} {draw : ε → UInt8 × ε} {n : Nat}

/-- So many single steps from where the screen was shown come to the same as ticks from before that,
with the screen shown after them. -/
def StepsAreTicks (draw : ε → UInt8 × ε) (n : Nat) : Prop :=
  ∀ (run : Run (Devices draw)) (trace : Array String), run.cpu.flags.paused = false →
    faulted (ticks n run.cpu run.host trace) = false →
    singleSteps n (present run).cpu (present run).host trace =
      present (ticks n run.cpu run.host trace)

/-- The first step of several shows the screen, wherever the screen was shown before it. -/
theorem singleSteps_succ (rest : StepsAreTicks draw n) {cpu : Cpu} {host : Devices draw}
    {trace : Array String} (hp : cpu.flags.paused = false)
    (hf : faulted (ticks (n + 1) cpu host trace) = false) :
    singleSteps (n + 1) cpu host trace = present (ticks (n + 1) cpu host trace) := by
  have hstep (hf : faulted (cpu.tick host) = false) :
      cpu.stepOnce host = present (cpu.tick host) := by
    rw [← stepTick_running host hp] at hf ⊢
    exact stepOnce_of_not_fault hf
  rcases ht : cpu.tick host with ⟨cpu', host', lines, result⟩
  rw [ht, present_devices] at hstep
  cases result with
  | error e =>
    simp only [ticks, ht] at hf
    simp only [singleSteps, hstep hf, ticks, ht, present_devices]
  | ok =>
    have hrunning := (tick_ok hp (congrArg Run.result ht)).1
    rw [ht] at hrunning
    simp only [ticks, ht] at hf
    have hrest := rest ⟨cpu', host', lines, .ok ()⟩ (trace ++ lines) hrunning hf
    rw [present_devices ⟨cpu', host', lines, .ok ()⟩] at hrest
    simp only [singleSteps, hstep rfl, ticks, ht]
    exact hrest

theorem stepsAreTicks (draw : ε → UInt8 × ε) (n : Nat) : StepsAreTicks draw n := by
  induction n with
  | zero =>
    intro run trace _ _
    rw [singleSteps, ticks, present_devices run, present_devices]
  | succ n ih =>
    intro run trace hp hf
    have hticks := present_ticks run (n + 1) trace
    have hrunning : (present run).cpu.flags.paused = false := by
      rw [present_cpu]
      exact hp
    rw [← faulted_present, ← hticks, faulted_present] at hf
    rw [← hticks]
    exact singleSteps_succ ih hrunning hf

/-- For the devices alone, a frame is single steps and then the timers. -/
theorem runFrame_devices {cpu : Cpu} {host : Devices draw} (hp : cpu.flags.paused = false)
    (hf : faulted (ticks (n + 1) cpu host #[]) = false) :
    cpu.runFrame host (n + 1) =
      let steps := singleSteps (n + 1) cpu host #[]
      { steps with cpu := steps.cpu.runTimers } := by
  rw [runFrame_of_not_fault hf, hp, singleSteps_succ (stepsAreTicks draw n) hp hf]
  exact present_map runTimers (fun _ => rfl) (fun _ => rfl) (ticks (n + 1) cpu host #[])

end Devices

theorem singleSteps_agree {τ : Type} [Host τ] {R : σ → τ → Prop} (h : Host.Simulation R) (n : Nat)
    (cpu : Cpu) {s : σ} {t : τ} (hr : R s t) (trace : Array String) :
    (singleSteps n cpu s trace).Agree R (singleSteps n cpu t trace) := by
  induction n generalizing cpu s t trace with
  | zero => exact ⟨rfl, hr, rfl, rfl⟩
  | succ n ih =>
    have hstep := cpu.stepOnce_agree h hr
    simp only [singleSteps]
    generalize cpu.stepOnce s = run at hstep ⊢
    generalize cpu.stepOnce t = run' at hstep ⊢
    obtain ⟨_, s', lines, result⟩ := run
    obtain ⟨_, t', _, _⟩ := run'
    obtain ⟨rfl, hr', rfl, rfl⟩ := hstep
    cases result with
    | ok => exact ih _ hr' _
    | error e => exact ⟨rfl, hr', rfl, rfl⟩

end Cpu

/-! ### Hosts -/

/-- As long as it works, a host does as its devices do. So it shows its screen without failing and
goes on working, and showing it changes nothing that instructions could see. -/
def Host.Equipped {σ ε : Type} [Host σ] {draw : ε → UInt8 × ε} (devices : σ → Devices draw)
    (works : σ → Prop) : Prop :=
  Host.Simulation fun host d => works host ∧ devices host = d

def Headless.devices (h : Headless) : Devices Entropy.draw := ⟨h.screen, h.keypad, h.entropy⟩

theorem Headless.equipped : Host.Equipped Headless.devices fun _ => True where
  randomByte := by
    rintro h _ ⟨_, rfl⟩
    exact ⟨rfl, trivial, rfl⟩
  keys := by
    rintro h _ ⟨_, rfl⟩
    exact ⟨rfl, trivial, rfl⟩
  clear := by
    rintro h _ ⟨_, rfl⟩
    exact ⟨trivial, rfl⟩
  blit := by
    rintro h _ sprite x y ⟨_, rfl⟩
    exact ⟨rfl, trivial, rfl⟩
  present := by
    rintro h _ ⟨_, rfl⟩
    exact ⟨rfl, trivial, rfl⟩

def WindowHost.devices (h : WindowHost) : Devices Entropy.draw := ⟨h.screen, h.keypad, h.entropy⟩

/-- A window works as long as it is not one of the moments in which it fails. -/
theorem WindowHost.equipped :
    Host.Equipped WindowHost.devices fun h => h.window.current.failure = none where
  randomByte := by
    rintro h _ ⟨hw, rfl⟩
    exact ⟨rfl, hw, rfl⟩
  keys := by
    rintro h _ ⟨hw, rfl⟩
    exact ⟨rfl, hw, rfl⟩
  clear := by
    rintro h _ ⟨hw, rfl⟩
    exact ⟨hw, rfl⟩
  blit := by
    rintro h _ sprite x y ⟨hw, rfl⟩
    exact ⟨rfl, hw, rfl⟩
  present := by
    rintro h _ ⟨hw, rfl⟩
    simp only [Host.present, WindowHost.present, Window.display, hw]
    exact ⟨trivial, hw, rfl⟩

namespace Cpu

variable {σ : Type} [Host σ]

/-- A frame without a fault is as many single steps and the timers run down once, whatever there was
to show when it began and whichever of the ticks drew, and also if a breakpoint ends it early; only
that it shows the screen at most once. In a pause, a single step does what it does without, and the
pause goes on. -/
theorem runFrame_singleSteps (cpu : Cpu) (host : σ) :
    (∀ {ε : Type} {draw : ε → UInt8 × ε} {devices : σ → Devices draw} {works : σ → Prop},
      Host.Equipped devices works → works host → cpu.flags.paused = false →
      ∀ n, 0 < n → faulted (ticks n cpu host #[]) = false →
        let frame := cpu.runFrame host n
        let steps := singleSteps n cpu host #[]
        frame.cpu = steps.cpu.runTimers ∧ devices frame.host = devices steps.host ∧
          frame.trace = steps.trace ∧ frame.result = steps.result ∧
          (cpu.Shows host n 0 ∨ cpu.Shows host n 1)) ∧
    (cpu.flags.paused = true →
      cpu.stepOnce host =
        let step := ({ cpu with flags.paused := false } : Cpu).stepOnce host
        { step with cpu.flags.paused := true }) := by
  refine ⟨?_, stepOnce_paused host⟩
  intro ε draw devices works h hw hp n hn hf frame steps
  obtain ⟨n, rfl⟩ := Nat.exists_eq_add_one_of_ne_zero hn.ne'
  -- both are compared with the devices alone
  have hr : works host ∧ devices host = devices host := ⟨hw, rfl⟩
  have hticks := ticks_agree h.toLockstep (n + 1) cpu hr #[]
  have hframe : frame.Agree _ _ := runFrame_agree h cpu (n + 1) hr
  have hsteps : steps.Agree _ _ := singleSteps_agree h (n + 1) cpu hr #[]
  have hf' : faulted (ticks (n + 1) cpu (devices host) #[]) = false := by
    simpa only [faulted, hticks.result] using hf
  rw [runFrame_devices hp hf'] at hframe
  refine ⟨?_, ?_, ?_, ?_, ?_⟩
  · rw [hframe.cpu, hsteps.cpu]
  · rw [hframe.host.2, hsteps.host.2]
  · rw [hframe.trace, hsteps.trace]
  · rw [hframe.result, hsteps.result]
  · cases hd : (ticks (n + 1) cpu host #[]).cpu.flags.dirty with
    | false => exact .inl (runFrame_clean hf hd).2.2
    | true => exact .inr (runFrame_dirty hf hd).2.2

/-- About to draw, with a breakpoint two instructions ahead. -/
def drawing : Cpu :=
  let program := [0xd0, 0x05, 0x60, 0x01, 0x12, 0x00]
  (initial.perform (Headless.seeded 0) (.load 0x200 program)).cpu.addBreakpoint 0x204

/-- The breakpoint ends the frame, and the single steps, after two of four instructions. -/
theorem runFrame_singleSteps_drawing :
    let host := Headless.seeded 0
    let frame := drawing.runFrame host 4
    let steps := singleSteps 4 drawing host #[]
    drawing.flags.paused = false ∧ faulted (ticks 4 drawing host #[]) = false ∧
      frame.cpu.cycle = 2 ∧ frame.cpu.flags.paused = true ∧
      frame.cpu = steps.cpu.runTimers ∧ frame.host.devices = steps.host.devices ∧
      frame.result = steps.result := by
  intro host frame steps
  have hp : drawing.flags.paused = false := rfl
  have hf : faulted (ticks 4 drawing host #[]) = false := by decide +kernel
  obtain ⟨hcycle, hpause⟩ : frame.cpu.cycle = 2 ∧ frame.cpu.flags.paused = true := by
    decide +kernel
  obtain ⟨hrun, _⟩ := runFrame_singleSteps drawing host
  obtain ⟨hcpu, hdevices, _, hresult, _⟩ :=
    hrun Headless.equipped trivial hp 4 (Nat.succ_pos 3) hf
  exact ⟨hp, hf, hcycle, hpause, hcpu, hdevices, hresult⟩

end Cpu

/-! ### A picture that is answered -/

/-- A headless host whose user presses the first key at every picture. -/
structure Answered where
  headless : Headless

instance : Host Answered where
  randomByte h :=
    let (b, headless) := Host.randomByte h.headless
    (b, { h with headless })
  keys h := (h.headless.keypad.mask, h)
  clear h := { h with headless := Host.clear h.headless }
  blit h sprite x y :=
    let (hit, headless) := Host.blit h.headless sprite x y
    (hit, { h with headless })
  present h :=
    let (result, headless) := Host.present h.headless
    (result, { h with headless := { headless with keypad := (headless.keypad.press 0).2 } })

namespace Cpu

/-- About to clear the screen, and then to skip an instruction if the first key is held. -/
def clearing : Cpu :=
  (initial.perform (Headless.seeded 0) (.load 0x200 [0x00, 0xe0, 0xe0, 0x9e])).cpu

/-- The frame asks for the key before its picture is shown, and the second of two single steps asks
after a picture was shown. No picture fails to be shown and no tick is a fault, but the frame goes on
with the next instruction and the steps skip it. -/
theorem runFrame_ne_singleSteps :
    let host : Answered := ⟨Headless.seeded 0⟩
    let frame := clearing.runFrame host 2
    let steps := singleSteps 2 clearing host #[]
    (∀ h : Answered, (Host.present h).1 = .ok ()) ∧ Reachable clearing ∧
      clearing.flags.paused = false ∧ faulted (ticks 2 clearing host #[]) = false ∧
      frame.result = .ok () ∧ steps.result = .ok () ∧
      frame.cpu.pc = 0x204 ∧ steps.cpu.runTimers.pc = 0x206 := by
  intro host frame steps
  have hpresent (h : Answered) : (Host.present h).1 = .ok () := rfl
  have hreachable : Reachable clearing := .perform _ _ .initial
  have hp : clearing.flags.paused = false := rfl
  have hf : faulted (ticks 2 clearing host #[]) = false := by decide +kernel
  obtain ⟨hframe, hpc⟩ : frame.result = .ok () ∧ frame.cpu.pc = 0x204 := by decide +kernel
  obtain ⟨hsteps, hskipped⟩ : steps.result = .ok () ∧ steps.cpu.runTimers.pc = 0x206 := by
    decide +kernel
  exact ⟨hpresent, hreachable, hp, hf, hframe, hsteps, hpc, hskipped⟩

end Cpu

end Chip8
