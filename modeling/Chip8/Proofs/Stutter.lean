import Chip8.Proofs.Fault
import Chip8.Proofs.KeyWait
import Mathlib.Data.Nat.Count

/-! Waiting leaves no mark. A processor at an instruction that waits may be ticked while no key is
held, for as long as one likes, and its timers may run meanwhile: it goes on with the first key held
as it would have done at once, but for the cycles counted and the time passed. -/

namespace Chip8

namespace Use

variable {σ : Type}

def isTick : Use σ → Bool
  | .operation .tick => true
  | _ => false

def isTimers : Use σ → Bool
  | .operation .runTimers => true
  | _ => false

/-- Ticks while no key is held, the timers, and whatever the host does by itself. -/
def Idles [Host σ] (m : Machine σ) : Use σ → Prop
  | .operation .tick => m.Unheld
  | .operation .runTimers | .change _ => True
  | _ => False

end Use

namespace Cpu

theorem atWait_of_word {cpu : Cpu} {x : Nat} (hx : x < 16)
    (hw : cpu.wordAtPc.word = Instruction.wordOfByte 0xf x 0x0a) : cpu.AtWait x := by
  have hi : (Instruction.waitk x).InRange := Nat.le_of_lt_succ hx
  exact decode_fetch hi hw

/-- The processor after ticks with no key held, between which the timers ran a number of times. -/
def waited (cpu : Cpu) (ticks timers : Nat) : Cpu :=
  { cpu with
    cycle := cpu.cycle + ticks
    flags.awaitingKey := cpu.flags.awaitingKey || decide (0 < ticks)
    delay := lowered^[timers] cpu.delay
    sound := lowered^[timers] cpu.sound }

theorem waited_zero (cpu : Cpu) : cpu.waited 0 0 = cpu := by
  simp [waited]

theorem waited_runTimers (cpu : Cpu) (n k : Nat) :
    (cpu.waited n k).runTimers = cpu.waited n (k + 1) := by
  simp only [waited, runTimers, Function.iterate_succ_apply']

theorem AtWait.waited {cpu : Cpu} {x : Nat} (h : cpu.AtWait x) (n k : Nat) :
    (cpu.waited n k).AtWait x :=
  h

variable {σ : Type} [Host σ] {cpu : Cpu} {host : σ} {x : Nat}

/-- A tick that finds a key held takes the least and goes on. -/
theorem AtWait.tick_held (h : cpu.AtWait x) (hp : cpu.flags.paused = false)
    (hk : (Host.keys host).1 ≠ 0) :
    cpu.tick host = checkBreakpoint
      { cpu.countCycle.advance with
        v := cpu.v.set x (UInt8.ofNat (leastKey host)), flags.awaitingKey := false }
      (Host.keys host).2 (cpu.traceNext cpu.fetch) := by
  have he : cpu.countCycle.execute host (.waitk x) = .done { cpu.countCycle.advance with
      v := cpu.v.set x (UInt8.ofNat (leastKey host)), flags.awaitingKey := false }
        (Host.keys host).2 :=
    waitForKey_held cpu.countCycle x hk
  rw [tick_running host hp, step_of_decode host h rfl, he]
  rfl

/-- The least key comes into the register, and the next instruction follows. -/
theorem AtWait.tick_takes_least (h : cpu.AtWait x) (hp : cpu.flags.paused = false)
    (hk : (Host.keys host).1 ≠ 0) :
    let next := cpu.tick host
    (∃ key < 16, Keypad.holds (Host.keys host).1 key = true ∧
        (∀ other < key, Keypad.holds (Host.keys host).1 other = false) ∧
        next.cpu.v = cpu.v.set x (UInt8.ofNat key)) ∧
      next.cpu.flags.awaitingKey = false ∧ next.cpu.pc.toNat = (cpu.pc.toNat + 2) % 0x1000 ∧
      (next.cpu.pc ∉ cpu.breakpoints → next.result = .ok ()) := by
  have hkey : leastKey host < 16 := Keypad.trailingZeros_lt hk
  have hheld := Keypad.holds_trailingZeros hk
  have hless (other : Nat) (h : other < leastKey host) := Keypad.holds_of_lt_trailingZeros h
  have hpc : (following cpu.pc).toNat = (cpu.pc.toNat + 2) % 0x1000 := by
    simp only [following, UInt16.toNat_mod, UInt16.toNat_add, UInt16.reduceToNat]
    omega
  rw [h.tick_held hp hk]
  by_cases hb : following cpu.pc ∈ cpu.breakpoints
  · rw [checkBreakpoint_hit _ _ hb]
    exact ⟨⟨leastKey host, hkey, hheld, hless, rfl⟩, rfl, hpc, fun hmiss => absurd hb hmiss⟩
  · rw [checkBreakpoint_miss _ _ hb]
    exact ⟨⟨leastKey host, hkey, hheld, hless, rfl⟩, rfl, hpc, fun _ => rfl⟩

/-- A key that is held ends the waiting in the same way however long it was. What ends it reads none
of the parts in which the two processors differ. -/
theorem AtWait.tick_held_waited (h : cpu.AtWait x) (hp : cpu.flags.paused = false)
    (hk : (Host.keys host).1 ≠ 0) (n k : Nat) :
    let early := cpu.tick host
    let late := (cpu.waited n k).tick host
    late.cpu = { early.cpu with
        cycle := early.cpu.cycle + n
        delay := lowered^[k] early.cpu.delay
        sound := lowered^[k] early.cpu.sound } ∧
      late.host = early.host ∧ late.result = early.result := by
  have hcycle : cpu.cycle + n + 1 = cpu.cycle + 1 + n := by omega
  rw [h.tick_held hp hk, (h.waited n k).tick_held hp hk]
  by_cases hb : following cpu.pc ∈ cpu.breakpoints
  · rw [checkBreakpoint_hit _ _ hb, checkBreakpoint_hit _ _ hb]
    refine ⟨?_, rfl, rfl⟩
    simp only [Cpu.waited, countCycle, advance, hcycle]
  · rw [checkBreakpoint_miss _ _ hb, checkBreakpoint_miss _ _ hb]
    refine ⟨?_, rfl, rfl⟩
    simp only [Cpu.waited, countCycle, advance, hcycle]

end Cpu

namespace Machine

variable {σ : Type} [Host σ] {cpu : Cpu} {x : Nat}

/-- One use of a processor that waits, with no key held. -/
theorem use_waited (h : cpu.AtWait x) (hp : cpu.flags.paused = false)
    (hb : cpu.pc ∉ cpu.breakpoints) {m : Machine σ} {n k : Nat} (hm : m.cpu = cpu.waited n k)
    {u : Use σ} (hu : u.Idles m) :
    (m.use u).cpu = cpu.waited (n + if u.isTick then 1 else 0) (k + if u.isTimers then 1 else 0) ∧
      (m.use u).result = .ok () ∧
      (u.isTick = true → (m.use u).host = (Host.keys m.host).2) := by
  obtain ⟨_, host⟩ := m
  obtain rfl := hm
  cases u with
  | change f =>
    refine ⟨rfl, rfl, ?_⟩
    rintro ⟨⟩
  | operation op =>
    cases op with
    | tick =>
      have ht := (h.waited n k).tick_unheld hp hb hu
      rw [use, Cpu.perform, ht]
      refine ⟨?_, rfl, fun _ => rfl⟩
      simp [Cpu.waited, Use.isTick, Use.isTimers, Nat.add_assoc]
    | runTimers =>
      refine ⟨cpu.waited_runTimers n k, rfl, ?_⟩
      rintro ⟨⟩
    | _ => exact hu.elim

/-- Any number of them. -/
theorem used_waited (h : cpu.AtWait x) (hp : cpu.flags.paused = false)
    (hb : cpu.pc ∉ cpu.breakpoints) {host : σ} {uses : Nat → Use σ} {N : Nat}
    (huses : ∀ t < N, (uses t).Idles (used ⟨cpu, host⟩ uses t)) :
    (used ⟨cpu, host⟩ uses N).cpu = cpu.waited (Nat.count (fun t => (uses t).isTick) N)
      (Nat.count (fun t => (uses t).isTimers) N) := by
  -- the invariant is the whole processor, so that a further use finds it at the same instruction
  induction N with
  | zero => exact cpu.waited_zero.symm
  | succ N ih =>
    have hm := ih fun t ht => huses t (by omega)
    obtain ⟨hnext, -⟩ := use_waited h hp hb hm (huses N (Nat.lt_succ_self N))
    rw [Nat.count_succ, Nat.count_succ]
    exact hnext

/-- With no key held, ticks at an instruction that waits all end well and leave no trace but in the
cycle counter and the flag of waiting, and the timers run between them as they always do. The first
key held ends the waiting, however long it was, as it would have ended it at once: the least key held
comes into the register, and the program goes on with the next instruction. -/
theorem waiting_stutters (hp : cpu.flags.paused = false) (hx : x < 16)
    (hw : cpu.wordAtPc.word = Instruction.wordOfByte 0xf x 0x0a) (hb : cpu.pc ∉ cpu.breakpoints)
    {host : σ} {uses : Nat → Use σ} {N : Nat}
    (huses : ∀ t < N, (uses t).Idles (used ⟨cpu, host⟩ uses t)) :
    let m : Nat → Machine σ := used ⟨cpu, host⟩ uses
    let n := Nat.count (fun t => (uses t).isTick) N
    let k := Nat.count (fun t => (uses t).isTimers) N
    (∀ t < N, ((m t).use (uses t)).result = .ok ()) ∧
    (∀ t < N, (uses t).isTick = true → (m (t + 1)).host = (Host.keys (m t).host).2) ∧
    (m N).cpu = { cpu with
      cycle := cpu.cycle + n
      flags.awaitingKey := cpu.flags.awaitingKey || decide (0 < n)
      delay := Cpu.lowered^[k] cpu.delay
      sound := Cpu.lowered^[k] cpu.sound } ∧
    ∀ held : σ, (Host.keys held).1 ≠ 0 →
      let early := cpu.tick held
      let late := (m N).cpu.tick held
      late.cpu = { early.cpu with
        cycle := early.cpu.cycle + n
        delay := Cpu.lowered^[k] early.cpu.delay
        sound := Cpu.lowered^[k] early.cpu.sound } ∧
      late.host = early.host ∧ late.result = early.result ∧
      (∃ key < 16, Keypad.holds (Host.keys held).1 key = true ∧
        (∀ other < key, Keypad.holds (Host.keys held).1 other = false) ∧
        early.cpu.v = cpu.v.set x (UInt8.ofNat key)) ∧
      early.cpu.flags.awaitingKey = false ∧
      early.cpu.pc.toNat = (cpu.pc.toNat + 2) % 0x1000 ∧
      (early.cpu.pc ∉ cpu.breakpoints → early.result = .ok ()) := by
  intro m n k
  have h : cpu.AtWait x := Cpu.atWait_of_word hx hw
  have hwaited {t : Nat} (ht : t ≤ N) : (m t).cpu =
      cpu.waited (Nat.count (fun s => (uses s).isTick) t)
        (Nat.count (fun s => (uses s).isTimers) t) :=
    used_waited h hp hb fun s hs => huses s (by omega)
  have huse {t : Nat} (ht : t < N) := use_waited h hp hb (hwaited ht.le) (huses t ht)
  refine ⟨fun t ht => (huse ht).2.1, fun t ht => (huse ht).2.2, hwaited le_rfl, ?_⟩
  intro held hk early late
  simp only [late, hwaited le_rfl]
  obtain ⟨hcpu, hhost, hresult⟩ := h.tick_held_waited hp hk n k
  exact ⟨hcpu, hhost, hresult, h.tick_takes_least hp hk⟩

/-- At an instruction that waits, half of it in the last byte of memory and half in the first. -/
def waitingAtEnd : Cpu :=
  { Cpu.initial with pc := 0xfff, delay := 2, memory := Memory.initial.load 0xfff [0xf3, 0x0a] }

/-- After two ticks and a run of the timers between them, the lesser of two keys is taken. -/
theorem waiting_stutters_atEnd :
    let host := Headless.seeded 0
    let uses : Nat → Use Headless
      | 1 => .operation .runTimers
      | _ => .operation .tick
    let held := { host with keypad := ⟨0x120⟩ }
    let late := (used ⟨waitingAtEnd, host⟩ uses 3).cpu.tick held
    (∀ t < 3, (uses t).Idles (used ⟨waitingAtEnd, host⟩ uses t)) ∧ late.result = .ok () ∧
      late.cpu.v = waitingAtEnd.v.set 3 5 ∧ late.cpu.pc.toNat = 1 ∧ late.cpu.cycle = 3 ∧
      late.cpu.delay = 1 := by
  intro host uses held late
  have hw : waitingAtEnd.wordAtPc.word = Instruction.wordOfByte 0xf 3 0x0a := by decide +kernel
  have huses : ∀ t < 3, (uses t).Idles (used ⟨waitingAtEnd, host⟩ uses t) := by
    rintro (_ | _ | _ | t) ht
    · exact show (Host.keys _).1 = 0 by decide +kernel
    · trivial
    · exact show (Host.keys _).1 = 0 by decide +kernel
    · omega
  have hp : waitingAtEnd.flags.paused = false := rfl
  obtain ⟨_, _, _, hgoes⟩ := waiting_stutters hp (by decide) hw List.not_mem_nil huses
  obtain ⟨hcpu, _, hresult, ⟨key, hlt, hheld, hless, hv⟩, _, hpc, hok⟩ :=
    hgoes held (by decide +kernel)
  replace hcpu : late.cpu = _ := hcpu
  replace hresult : late.result = _ := hresult
  obtain ⟨hleast, hfive⟩ : (∀ key < 16, Keypad.holds 0x120 key = true → 5 ≤ key) ∧
      Keypad.holds 0x120 5 = true := by
    decide
  obtain rfl : 5 = key := by
    apply Nat.le_antisymm (hleast key hlt hheld)
    apply Nat.le_of_not_lt
    intro hgt
    cases hfive.symm.trans (hless 5 hgt)
  obtain ⟨hticks, htimers⟩ : Nat.count (fun t => (uses t).isTick) 3 = 2 ∧
      Nat.count (fun t => (uses t).isTimers) 3 = 1 := by
    decide +kernel
  rw [hticks, htimers] at hcpu
  obtain ⟨hcycle, hdelay⟩ : (waitingAtEnd.tick held).cpu.cycle = 1 ∧
      (waitingAtEnd.tick held).cpu.delay = 2 := by
    decide +kernel
  -- what the tick leaves is known from here on, and need not be computed again
  generalize waitingAtEnd.tick held = early at hcpu hresult hv hpc hok hcycle hdelay
  refine ⟨huses, hresult.trans (hok List.not_mem_nil), ?_, ?_, ?_, ?_⟩
  · rw [hcpu]
    exact hv
  · rw [hcpu]
    exact hpc
  · rw [hcpu, hcycle]
  · rw [hcpu, hdelay]
    rfl

end Machine

end Chip8
