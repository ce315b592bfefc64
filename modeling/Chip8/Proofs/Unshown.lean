import Chip8.Headless
import Chip8.Proofs.Drawing
import Chip8.Proofs.Reachable

/-! What is drawn and not shown yet. A host around the host keeps a log of what happens to the screen.
The dirty mark of a processor tells whether anything was drawn since the host was last asked to show
the screen. That is not whether anything was drawn since the host last showed it: the mark is taken
back before the host answers, and a picture that the host fails to show is lost. -/

namespace Chip8

inductive ScreenEvent where
  | drawn
  /-- The host was asked to show the screen. -/
  | shown (result : Except Error Unit)

/-- Whether something was drawn since a picture was last shown, where `counts` tells which answers of
the host count; `start` tells whether something was drawn before. -/
def ScreenEvent.waiting (counts : Except Error Unit → Bool) (start : Bool)
    (log : List ScreenEvent) : Bool :=
  log.foldl
    (fun waiting e => match e with
      | .drawn => true
      | .shown result => waiting && !counts result)
    start

namespace ScreenEvent

variable {counts : Except Error Unit → Bool} {start : Bool} (log : List ScreenEvent)

theorem waiting_append (more : List ScreenEvent) :
    waiting counts start (log ++ more) = waiting counts (waiting counts start log) more :=
  List.foldl_append

theorem waiting_replicate (k : Nat) :
    waiting counts start (List.replicate k .drawn) = (start || decide (0 < k)) := by
  induction k generalizing start with
  | zero => simp [waiting]
  | succ k ih =>
    rw [List.replicate_succ]
    exact ih.trans (by simp)

end ScreenEvent

/-- A host that keeps a log of what is drawn and shown, newest last. -/
structure Logged (σ : Type) where
  host : σ
  log : List ScreenEvent

variable {σ : Type} [Host σ]

namespace Logged

instance : Host (Logged σ) where
  randomByte l :=
    let (b, host) := Host.randomByte l.host
    (b, { l with host })
  keys l :=
    let (keys, host) := Host.keys l.host
    (keys, { l with host })
  clear l := ⟨Host.clear l.host, l.log ++ [.drawn]⟩
  blit l sprite x y :=
    let (hit, host) := Host.blit l.host sprite x y
    (hit, ⟨host, l.log ++ [.drawn]⟩)
  present l :=
    let (result, host) := Host.present l.host
    (result, ⟨host, l.log ++ [.shown result]⟩)

/-- The log makes no difference to anything else. -/
theorem simulation : Host.Simulation fun (l : Logged σ) (host : σ) => l.host = host where
  randomByte := by
    rintro l _ rfl
    exact ⟨rfl, rfl⟩
  keys := by
    rintro l _ rfl
    exact ⟨rfl, rfl⟩
  clear := by
    rintro l _ rfl
    rfl
  blit := by
    rintro l _ sprite x y rfl
    exact ⟨rfl, rfl⟩
  present := by
    rintro l _ rfl
    exact ⟨rfl, rfl⟩

theorem undisturbed (log : List ScreenEvent) :
    Host.Undisturbed fun l : Logged σ => l.log = log where
  randomByte h := h
  keys h := h

theorem log_of_drawnOn {l drawn : Logged σ} (h : Host.DrawnOn l drawn) :
    drawn.log = l.log ++ [.drawn] := by
  obtain rfl | ⟨sprite, x, y, rfl⟩ := h
  · rfl
  · rfl

end Logged

namespace Cpu

/-! ### Ticks -/

/-- Between two states something was drawn `k` times, and nothing was shown. -/
structure Drew (cpu : Cpu) (l : Logged σ) (k : Nat) (cpu' : Cpu) (l' : Logged σ) : Prop where
  log : l'.log = l.log ++ List.replicate k .drawn
  dirty : cpu'.flags.dirty = (cpu.flags.dirty || decide (0 < k))

variable {cpu : Cpu} {l : Logged σ}

omit [Host σ] in
theorem Drew.refl (cpu : Cpu) (l : Logged σ) : Drew cpu l 0 cpu l := ⟨by simp, by simp⟩

theorem Drew.tick {cpu' : Cpu} {l' : Logged σ} {k : Nat} (h : Drew cpu l k cpu' l') :
    ∃ k', Drew cpu l k' (cpu'.tick l').cpu (cpu'.tick l').host := by
  cases hd : cpu'.drawsNext with
  | true =>
    refine ⟨k + 1, ?_, ?_⟩
    · rw [Logged.log_of_drawnOn (tick_drawing l' hd), h.log, List.replicate_succ',
        List.append_assoc]
    · rw [tick_dirty, ← drawsNext, hd]
      simp
  | false =>
    refine ⟨k, ?_, ?_⟩
    · rw [tick_undisturbed (Logged.undisturbed l'.log) hd rfl, h.log]
    · rw [tick_dirty, ← drawsNext, hd, h.dirty, Bool.false_or]

theorem drew_ticks (cpu : Cpu) (l : Logged σ) (n : Nat) (trace : Array String) :
    ∃ k, Drew cpu l k (ticks n cpu l trace).cpu (ticks n cpu l trace).host :=
  ticks_induction (P := fun cpu' l' => ∃ k, Drew cpu l k cpu' l')
    (fun _ _ ⟨_, h⟩ => h.tick) n trace ⟨0, .refl cpu l⟩

theorem drew_stepTick (cpu : Cpu) (l : Logged σ) :
    ∃ k, Drew cpu l k (cpu.stepTick l).cpu (cpu.stepTick l).host := by
  obtain ⟨k, h⟩ := (Drew.refl { cpu with flags.paused := false } l).tick
  exact ⟨k, h.log, h.dirty⟩

/-! ### Shown screens -/

/-- Between two states something was drawn `k` times, and then the screen was shown, if there was
anything to show and the way led so far. -/
structure Showed (cpu : Cpu) (l : Logged σ) (far : Bool) (k : Nat) (result : Except Error Unit)
    (cpu' : Cpu) (l' : Logged σ) : Prop where
  log : l'.log = l.log ++ List.replicate k .drawn ++
    if far && (cpu.flags.dirty || decide (0 < k)) then [.shown result] else []
  dirty : cpu'.flags.dirty = (!far && (cpu.flags.dirty || decide (0 < k)))

omit [Host σ] in
theorem Drew.showed {k : Nat} {cpu' : Cpu} {l' : Logged σ} (h : Drew cpu l k cpu' l') :
    Showed cpu l false k (.ok ()) cpu' l' :=
  ⟨by simp [h.log], by simp [h.dirty]⟩

/-- After the ticks the screen is shown. -/
theorem Drew.present {run : Run (Logged σ)} {k : Nat} (h : Drew cpu l k run.cpu run.host) :
    ∃ result, Showed cpu l true k result (present run).cpu (present run).host := by
  refine ⟨(Host.present run.host.host).1, ?_, ?_⟩
  · rw [Bool.true_and, ← h.dirty, ← h.log]
    cases hd : run.cpu.flags.dirty with
    | true =>
      rw [present_dirty hd]
      rfl
    | false =>
      rw [present_clean hd]
      simp
  · rw [present_cpu]
    rfl

omit [Host σ] in
/-- The mark goes on to tell whether anything was drawn since the host was last asked. -/
theorem Showed.dirty_eq {far : Bool} {k : Nat} {result : Except Error Unit} {cpu' : Cpu}
    {l' : Logged σ} (h : Showed cpu l far k result cpu' l') {start : Bool}
    (hs : cpu.flags.dirty = ScreenEvent.waiting (fun _ => true) start l.log) :
    cpu'.flags.dirty = ScreenEvent.waiting (fun _ => true) start l'.log := by
  rw [h.dirty, h.log, ScreenEvent.waiting_append, ScreenEvent.waiting_append,
    ScreenEvent.waiting_replicate, ← hs]
  cases far <;> cases cpu.flags.dirty || decide (0 < k) <;> rfl

end Cpu

/-! ### Operations -/

namespace Operation

/-- All but those that set the mark by hand. -/
def keepsMark : Operation → Bool
  | .setFlags _ | .reset => false
  | _ => true

/-- Whether an operation goes on to the screen: frames and single steps do, without a fault. -/
def reachesScreen {σ : Type} [Host σ] (cpu : Cpu) (host : σ) : Operation → Bool
  | .stepOnce => !Cpu.faulted (cpu.stepTick host)
  | .frame n => !Cpu.faulted (Cpu.ticks n cpu host #[])
  | _ => false

theorem reachesScreen_agree {σ τ : Type} [Host σ] [Host τ] {R : σ → τ → Prop}
    (h : Host.Lockstep R) (cpu : Cpu) {s : σ} {t : τ} (hr : R s t) (op : Operation) :
    op.reachesScreen cpu s = op.reachesScreen cpu t := by
  cases op with
  | stepOnce => simp only [reachesScreen, Cpu.faulted, (cpu.stepTick_agree h hr).result]
  | frame n => simp only [reachesScreen, Cpu.faulted, (Cpu.ticks_agree h n cpu hr #[]).result]
  | _ => rfl

end Operation

namespace Cpu

omit [Host σ] in
/-- A change without the host draws nothing. -/
theorem showed_ofChange {cpu : Cpu} (l : Logged σ) {changed : Cpu}
    (h : changed.flags.dirty = cpu.flags.dirty) :
    ∃ k result, Showed cpu l false k result changed l := by
  refine ⟨0, .ok (), Drew.showed ⟨?_, ?_⟩⟩
  · simp
  · simpa using h

/-- Each operation draws some number of times, and then shows the screen if it goes so far and there
is anything to show. -/
theorem showed_perform (cpu : Cpu) (l : Logged σ) {op : Operation} (h : op.keepsMark = true) :
    ∃ k result, Showed cpu l (op.reachesScreen cpu l) k result (cpu.perform l op).cpu
      (cpu.perform l op).host := by
  cases op with
  | tick =>
    obtain ⟨k, hk⟩ := (Drew.refl cpu l).tick
    exact ⟨k, .ok (), hk.showed⟩
  | stepOnce =>
    obtain ⟨k, hk⟩ := cpu.drew_stepTick l
    cases hf : faulted (cpu.stepTick l) with
    | true =>
      simp only [perform, Operation.reachesScreen, stepOnce_of_fault hf, hf]
      exact ⟨k, .ok (), hk.showed⟩
    | false =>
      simp only [perform, Operation.reachesScreen, stepOnce_of_not_fault hf, hf]
      exact ⟨k, hk.present⟩
  | frame n =>
    obtain ⟨k, hk⟩ := cpu.drew_ticks l n #[]
    cases hf : faulted (ticks n cpu l #[]) with
    | true =>
      simp only [perform, Operation.reachesScreen, runFrame_of_fault hf, hf]
      exact ⟨k, .ok (), hk.showed⟩
    | false =>
      simp only [perform, Operation.reachesScreen, runFrame_of_not_fault hf, hf]
      have ht : Drew cpu l k ((ticks n cpu l #[]).cpu.timed cpu.flags.paused)
          (ticks n cpu l #[]).host :=
        ⟨hk.log, by rw [timed_flags, hk.dirty]⟩
      exact ⟨k, Drew.present ht⟩
  | setRegister r b =>
    obtain ⟨v, he⟩ := cpu.setRegister_eq r b
    exact showed_ofChange l (congrArg (·.flags.dirty) he)
  | addBreakpoint a =>
    obtain ⟨breakpoints, hb⟩ := cpu.addBreakpoint_eq a
    exact showed_ofChange l (congrArg (·.flags.dirty) hb)
  | setFlags | reset => cases h
  | _ => exact showed_ofChange l rfl

end Cpu

namespace Machine

/-- The machine after an operation of its owner, however it ended. -/
def perform (m : Machine σ) (op : Operation) : Machine σ := (m.cpu.perform m.host op).machine

/-- The machine after one operation after the other. -/
def performAll (m : Machine σ) (ops : List Operation) : Machine σ := ops.foldl perform m

/-- A log leaves a run of operations as it is. -/
theorem performAll_logged (m : Machine (Logged σ)) (ops : List Operation) :
    ((m.performAll ops).cpu = ((⟨m.cpu, m.host.host⟩ : Machine σ).performAll ops).cpu) ∧
      ((m.performAll ops).host.host = ((⟨m.cpu, m.host.host⟩ : Machine σ).performAll ops).host) := by
  induction ops generalizing m with
  | nil => exact ⟨rfl, rfl⟩
  | cons op ops ih =>
    have h := m.cpu.perform_agree Logged.simulation (rfl : m.host.host = m.host.host) op
    have hm : (⟨(m.perform op).cpu, (m.perform op).host.host⟩ : Machine σ) =
        (⟨m.cpu, m.host.host⟩ : Machine σ).perform op := by
      simp only [perform, Run.machine, h.cpu, h.host]
    have hop := ih (m.perform op)
    rw [hm] at hop
    exact hop

theorem performAll_dirty {m : Machine (Logged σ)} {start : Bool}
    (h : m.cpu.flags.dirty = ScreenEvent.waiting (fun _ => true) start m.host.log)
    {ops : List Operation} (hops : ∀ op ∈ ops, op.keepsMark = true) :
    (m.performAll ops).cpu.flags.dirty =
      ScreenEvent.waiting (fun _ => true) start (m.performAll ops).host.log := by
  induction ops generalizing m with
  | nil => exact h
  | cons op ops ih =>
    obtain ⟨k, result, hw⟩ := m.cpu.showed_perform m.host (hops op List.mem_cons_self)
    exact ih (hw.dirty_eq h) fun op' hop => hops op' (List.mem_cons_of_mem _ hop)

/-- After any operations that leave the mark to the machine, it tells whether anything was drawn since
the host was last asked to show the screen, whether or not it did. So after a failure the next frame
or single step without a fault asks the host again if it draws itself, and only then. -/
theorem dirty_eq_waiting (cpu : Cpu) (host : σ) {ops : List Operation}
    (hops : ∀ op ∈ ops, op.keepsMark = true) :
    let m : Machine σ := performAll ⟨cpu, host⟩ ops
    let logged : Machine (Logged σ) := performAll ⟨cpu, ⟨host, []⟩⟩ ops
    (logged.cpu = m.cpu ∧ logged.host.host = m.host) ∧
    m.cpu.flags.dirty = ScreenEvent.waiting (fun _ => true) cpu.flags.dirty logged.host.log ∧
    ∀ op, op.keepsMark = true → ∃ k result,
      (logged.perform op).host.log = logged.host.log ++ List.replicate k .drawn ++
        if op.reachesScreen m.cpu m.host && (m.cpu.flags.dirty || decide (0 < k)) then [.shown result]
        else [] := by
  intro m logged
  obtain ⟨hcpu, hhost⟩ : logged.cpu = m.cpu ∧ logged.host.host = m.host :=
    performAll_logged ⟨cpu, ⟨host, []⟩⟩ ops
  refine ⟨⟨hcpu, hhost⟩, ?_, fun op hop => ?_⟩
  · rw [← hcpu]
    exact performAll_dirty (m := ⟨cpu, ⟨host, []⟩⟩) rfl hops
  · obtain ⟨k, result, hs⟩ := logged.cpu.showed_perform logged.host hop
    refine ⟨k, result, ?_⟩
    rw [← hcpu, ← Operation.reachesScreen_agree Logged.simulation.toLockstep logged.cpu hhost op]
    exact hs.log

/-- A cleared screen that is shown, and cleared again. -/
theorem dirty_eq_waiting_cls :
    let host := Headless.seeded 0
    let cpu := ((Cpu.initial.perform host (.writeWord 0x200 0x00e0)).cpu.perform host
      (.writeWord 0x202 0x00e0)).cpu
    let ops : List Operation := [.stepOnce, .tick]
    (∀ op ∈ ops, op.keepsMark = true) ∧
      (performAll ⟨cpu, host⟩ ops).cpu.flags.dirty = ScreenEvent.waiting (fun _ => true) false
        (performAll ⟨cpu, (⟨host, []⟩ : Logged Headless)⟩ ops).host.log := by
  intro host cpu ops
  have hops : ∀ op ∈ ops, op.keepsMark = true := by decide
  obtain ⟨_, hdirty, _⟩ := dirty_eq_waiting cpu host hops
  exact ⟨hops, hdirty⟩

end Machine

/-- A host that fails to show the screen as often as it still has to, and does nothing then. -/
structure Failing (σ : Type) where
  host : σ
  failures : Nat

instance : Host (Failing σ) where
  randomByte f :=
    let (b, host) := Host.randomByte f.host
    (b, { f with host })
  keys f :=
    let (keys, host) := Host.keys f.host
    (keys, { f with host })
  clear f := { f with host := Host.clear f.host }
  blit f sprite x y :=
    let (hit, host) := Host.blit f.host sprite x y
    (hit, { f with host })
  present f :=
    match f.failures with
    | 0 =>
      let (result, host) := Host.present f.host
      (result, { f with host })
    | failures + 1 => (.error (.io (.other "present failed")), { f with failures })

namespace Machine

/-- A cleared screen that the host fails to show is not marked any more, though it still waits, and
the next step does not ask for it. -/
theorem dirty_ne_waiting_isOk :
    let headless := Headless.seeded 0
    let cpu := ((Cpu.initial.perform headless (.writeWord 0x200 0x00e0)).cpu.perform headless
      (.writeWord 0x202 0x1202)).cpu
    let fresh : Machine (Logged (Failing Headless)) := ⟨cpu, ⟨⟨headless, 1⟩, []⟩⟩
    let failed := fresh.perform .stepOnce
    let after := failed.perform .stepOnce
    cpu.flags.dirty = false ∧
      failed.cpu.flags.dirty ≠ ScreenEvent.waiting Except.isOk false failed.host.log ∧
      Operation.reachesScreen failed.cpu failed.host .stepOnce = true ∧
      after.host.log.length = failed.host.log.length := by
  decide +kernel

end Machine

end Chip8
