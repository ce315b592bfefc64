import Chip8.Headless
import Chip8.Proofs.Usage
import Chip8.Proofs.Waiting
import Mathlib.Data.Nat.Init

/-! The flag of waiting tells the truth. As long as nobody else writes to memory or to the flag, a
processor that says that it waits stands at an instruction that waits, through breakpoints, pauses,
steps and resets. So all that it executes is this instruction: it asks for the keys and for nothing
else, and goes on with the first tick that finds one held. -/

namespace Chip8

/-- From one host to another there were questions for the keys and shown screens, and nothing else. -/
inductive Host.Polled {σ : Type} [Host σ] (s : σ) : σ → Prop
  | refl : Polled s s
  | keys {t : σ} : Polled s t → Polled s (Host.keys t).2
  | present {t : σ} : Polled s t → Polled s (Host.present t).2

/-! ### The owner -/

/-- The operation leaves memory to the program, and the flag of waiting to resets and the program. -/
def Operation.LeavesWait (cpu : Cpu) : Operation → Prop
  | .loadProgram _ | .load .. | .write .. | .writeWord .. | .clear .. => False
  | .setFlags flags => flags.awaitingKey = cpu.flags.awaitingKey
  | _ => True

def Use.LeavesWait {σ : Type} (cpu : Cpu) : Use σ → Prop
  | .operation op => op.LeavesWait cpu
  | .change _ => True

/-- The program is started again. -/
def Use.startsAgain {σ : Type} : Use σ → Bool
  | .operation .restart | .operation .reset => true
  | _ => false

namespace Cpu

variable {σ : Type} [Host σ]

theorem WaitsInPlace.of_eq {cpu cpu' : Cpu} (h : cpu.WaitsInPlace)
    (ha : cpu'.flags.awaitingKey = cpu.flags.awaitingKey) (hpc : cpu'.pc = cpu.pc)
    (hm : cpu'.memory = cpu.memory) : cpu'.WaitsInPlace := by
  unfold WaitsInPlace AtWait fetch
  rw [ha, hpc, hm]
  exact h

theorem waitsInPlace_of_not {cpu : Cpu} (h : cpu.flags.awaitingKey = false) : cpu.WaitsInPlace := by
  intro ha
  cases h.symm.trans ha

theorem WaitsInPlace.stepOnce {cpu : Cpu} (h : cpu.WaitsInPlace) (host : σ) :
    (cpu.stepOnce host).cpu.WaitsInPlace :=
  stepOnce_induction (P := WaitsInPlace) (fun _ host h => h.tick host) (fun _ _ h => h)
    (fun _ h => h) h host

theorem WaitsInPlace.perform {cpu : Cpu} (h : cpu.WaitsInPlace) (host : σ) {op : Operation}
    (hop : op.LeavesWait cpu) : (cpu.perform host op).cpu.WaitsInPlace := by
  cases op with
  | tick => exact h.tick host
  | stepOnce => exact h.stepOnce host
  | frame n => exact h.runFrame host n
  | setRegister r b =>
    obtain ⟨v, he⟩ := cpu.setRegister_eq r b
    rw [Cpu.perform, Run.ofChange, he]
    exact h.of_eq rfl rfl rfl
  | addBreakpoint a =>
    obtain ⟨breakpoints, he⟩ := cpu.addBreakpoint_eq a
    have hb : { cpu with breakpoints }.WaitsInPlace := h.of_eq rfl rfl rfl
    rw [← he] at hb
    exact hb
  | setFlags flags => exact h.of_eq hop rfl rfl
  | restart | reset => exact waitsInPlace_of_not rfl
  | loadProgram | load | write | writeWord | clear => exact hop.elim
  | _ => exact h.of_eq rfl rfl rfl

end Cpu

namespace Machine

variable {σ : Type} [Host σ]

theorem waitsInPlace_use {m : Machine σ} (h : m.cpu.WaitsInPlace) {u : Use σ}
    (hu : u.LeavesWait m.cpu) : (m.use u).cpu.WaitsInPlace := by
  cases u with
  | operation op => exact h.perform m.host hu
  | change f => exact h

theorem waitsInPlace_ticking {m : Machine σ} (h : m.cpu.WaitsInPlace) {n : Nat} :
    ∀ k ∈ m.ticking n, k.cpu.WaitsInPlace := by
  induction n generalizing m with
  | zero => simp [ticking]
  | succ n ih =>
    have hnext : m.next.cpu.WaitsInPlace := h.tick m.host
    intro k hk
    rw [ticking, List.mem_cons] at hk
    rcases hk with rfl | hk
    · exact h
    · split at hk
      · exact ih hnext k hk
      · cases hk

theorem waitsInPlace_executing {m : Machine σ} (h : m.cpu.WaitsInPlace) (u : Use σ) :
    ∀ k ∈ m.executing u, k.cpu.WaitsInPlace := by
  intro k hk
  unfold executing at hk
  split at hk
  · split at hk
    · cases hk
    · obtain rfl := List.mem_singleton.mp hk
      exact h
  · split at hk
    · cases hk
    · exact waitsInPlace_ticking h k hk
  · obtain rfl := List.mem_singleton.mp hk
    exact h
  · cases hk

end Machine

/-! ### One tick -/

namespace Machine

variable {σ : Type} [Host σ]

/-- A tick asks the host for its keys and for nothing else, changes no memory, is no fault, and leaves
the processor waiting where it is exactly as long as no key is held. -/
structure OnlyAsks (m : Machine σ) : Prop where
  host : m.tick.host = (Host.keys m.host).2
  memory : m.tick.cpu.memory = m.cpu.memory
  dirty : m.tick.cpu.flags.dirty = m.cpu.flags.dirty
  no_fault : ∀ e, m.tick.result = .error e → e.isBreakpoint = true
  awaiting_iff : m.tick.cpu.flags.awaitingKey = true ↔ m.Unheld
  stays : m.Unheld → m.tick.cpu.pc = m.cpu.pc

theorem onlyAsks_of_atWait {m : Machine σ} {x : Nat} (h : m.cpu.AtWait x)
    (hp : m.cpu.flags.paused = false) : m.OnlyAsks := by
  -- what the instruction leaves behind, before the look at the breakpoints
  let done : Executed σ := m.cpu.countCycle.waitForKey m.host x
  obtain ⟨paused, result, ht, hresult⟩ := Cpu.tick_of_decode m.host hp h rfl
  replace ht : m.tick = ⟨{ done.cpu with flags.paused := paused }, done.host, _, result⟩ := ht
  by_cases hu : m.Unheld
  · have hdone : done = .done { m.cpu.countCycle with flags.awaitingKey := true }
        (Host.keys m.host).2 := m.cpu.countCycle.waitForKey_unheld x hu
    rw [hdone] at ht
    constructor
    all_goals rw [ht]
    · rfl
    · rfl
    · rfl
    · exact hresult
    · exact iff_of_true rfl hu
    · exact fun _ => rfl
  · have hdone : done = .done { m.cpu.countCycle.advance with
        v := m.cpu.v.set x (UInt8.ofNat (Cpu.leastKey m.host)), flags.awaitingKey := false }
          (Host.keys m.host).2 :=
      m.cpu.countCycle.waitForKey_held x hu
    rw [hdone] at ht
    constructor
    all_goals rw [ht]
    · rfl
    · rfl
    · rfl
    · exact hresult
    · exact iff_of_false Bool.false_ne_true hu
    · exact fun h => absurd h hu

end Machine

/-! ### Waiting on -/

theorem Host.Polled.trans {σ : Type} [Host σ] {s t u : σ} (h : Host.Polled s t)
    (h' : Host.Polled t u) : Host.Polled s u := by
  induction h' with
  | refl => exact h
  | keys _ ih => exact ih.keys
  | present _ ih => exact ih.present

/-- The processor still waits where it waited before, for a program that is still the same. -/
structure Cpu.WaitsSince (cpu start : Cpu) : Prop where
  awaiting : cpu.flags.awaitingKey = true
  pc : cpu.pc = start.pc
  memory : cpu.memory = start.memory

namespace Cpu.WaitsSince

theorem trans {a b c : Cpu} (h : b.WaitsSince a) (h' : c.WaitsSince b) : c.WaitsSince a :=
  ⟨h'.awaiting, h'.pc.trans h.pc, h'.memory.trans h.memory⟩

theorem atWait {a b : Cpu} (h : b.WaitsSince a) {x : Nat} (hx : a.AtWait x) : b.AtWait x := by
  unfold AtWait fetch
  rw [h.pc, h.memory]
  exact hx

end Cpu.WaitsSince

namespace Machine

variable {σ : Type} [Host σ]

/-- And its host was only asked for the keys and to show the screen. -/
structure WaitsSince (m start : Machine σ) : Prop where
  cpu : m.cpu.WaitsSince start.cpu
  host : Host.Polled start.host m.host

variable {m : Machine σ}

theorem WaitsSince.refl (h : m.cpu.flags.awaitingKey = true) : m.WaitsSince m :=
  ⟨⟨h, rfl, rfl⟩, .refl⟩

theorem WaitsSince.trans {a b c : Machine σ} (h : b.WaitsSince a) (h' : c.WaitsSince b) :
    c.WaitsSince a :=
  ⟨h.cpu.trans h'.cpu, h.host.trans h'.host⟩

theorem OnlyAsks.waitsSince (h : m.OnlyAsks) (hu : m.Unheld) : m.next.WaitsSince m where
  cpu := ⟨h.awaiting_iff.mpr hu, h.stays hu, h.memory⟩
  host := by
    have hh : m.next.host = (Host.keys m.host).2 := h.host
    rw [hh]
    exact .keys .refl

variable {x n : Nat}

/-- Ticks find the processor waiting up to the first of them that finds a key held. -/
theorem ticking_waitsSince (h : m.cpu.AtWait x) (ha : m.cpu.flags.awaitingKey = true)
    (hp : m.cpu.flags.paused = false) {before after : List (Machine σ)} {k : Machine σ}
    (he : m.ticking n = before ++ k :: after) (hb : ∀ b ∈ before, b.Unheld) :
    k.WaitsSince m ∧ k.cpu.flags.paused = false := by
  induction n generalizing m before with
  | zero => simp [ticking] at he
  | succ n ih =>
    rw [ticking] at he
    cases before with
    | nil =>
      obtain ⟨rfl, -⟩ := List.cons.inj he
      exact ⟨.refl ha, hp⟩
    | cons b before =>
      obtain ⟨rfl, hrest⟩ := List.cons.inj he
      have hs := (onlyAsks_of_atWait h hp).waitsSince (hb m List.mem_cons_self)
      cases hr : m.tick.result with
      | error e => simp [hr] at hrest
      | ok =>
        rw [hr] at hrest
        obtain ⟨hk, hkp⟩ := ih (hs.cpu.atWait h) hs.cpu.awaiting (Cpu.tick_ok hp hr).1 hrest
          fun b hm => hb b (List.mem_cons_of_mem _ hm)
        exact ⟨hs.trans hk, hkp⟩

/-- If none of them does, they leave it waiting. -/
theorem ticks_waitsSince (h : m.cpu.AtWait x) (ha : m.cpu.flags.awaitingKey = true)
    (hp : m.cpu.flags.paused = false) (hu : ∀ k ∈ m.ticking n, k.Unheld) (trace : Array String) :
    (Cpu.ticks n m.cpu m.host trace).machine.WaitsSince m ∧
      Cpu.faulted (Cpu.ticks n m.cpu m.host trace) = false := by
  induction n generalizing m trace with
  | zero => exact ⟨.refl ha, rfl⟩
  | succ n ih =>
    have hasks := onlyAsks_of_atWait h hp
    rw [ticking] at hu
    have hs := hasks.waitsSince (hu m List.mem_cons_self)
    rcases ht : m.cpu.tick m.host with ⟨cpu, host, lines, result⟩
    have hn : m.next = ⟨cpu, host⟩ := by simp [next, tick, ht, Run.machine]
    have hr : m.tick.result = result := by simp [tick, ht]
    cases result with
    | error e =>
      simp only [Cpu.ticks, ht]
      rw [hn] at hs
      exact ⟨hs, Cpu.faulted_eq_false (by rintro _ ⟨⟩; exact hasks.no_fault e hr)⟩
    | ok =>
      rw [hr] at hu
      obtain ⟨hk, hf⟩ := ih (hs.cpu.atWait h) hs.cpu.awaiting (Cpu.tick_ok hp hr).1
        (fun k hk => hu k (List.mem_cons_of_mem _ hk)) (trace ++ lines)
      simp only [Cpu.ticks, ht]
      rw [hn] at hk hf hs
      exact ⟨hs.trans hk, hf⟩

/-! ### Any use -/

theorem present_waitsSince {run : Run σ} (h : run.machine.WaitsSince m) :
    (Cpu.present run).machine.WaitsSince m := by
  cases hd : run.cpu.flags.dirty with
  | false => rwa [Cpu.present_clean hd]
  | true =>
    rw [Cpu.present_dirty hd]
    exact ⟨⟨h.cpu.awaiting, h.cpu.pc, h.cpu.memory⟩, .present h.host⟩

theorem stepOnce_waitsSince (h : m.cpu.AtWait x) (hu : m.Unheld) :
    (m.cpu.stepOnce m.host).machine.WaitsSince m := by
  let running : Machine σ := { m with cpu.flags.paused := false }
  have hx : running.cpu.AtWait x := h
  have hasks : running.OnlyAsks := onlyAsks_of_atWait hx rfl
  have hs : running.next.WaitsSince running := hasks.waitsSince hu
  have hf : Cpu.faulted (m.cpu.stepTick m.host) = false := Cpu.faulted_eq_false hasks.no_fault
  rw [Cpu.stepOnce_of_not_fault hf]
  exact present_waitsSince ⟨⟨hs.cpu.awaiting, hs.cpu.pc, hs.cpu.memory⟩, hs.host⟩

theorem runFrame_waitsSince (h : m.cpu.AtWait x) (ha : m.cpu.flags.awaitingKey = true)
    (hu : ∀ k ∈ m.executing (.operation (.frame n)), k.Unheld) :
    (m.cpu.runFrame m.host n).machine.WaitsSince m := by
  obtain ⟨hs, hf⟩ : (Cpu.ticks n m.cpu m.host #[]).machine.WaitsSince m ∧
      Cpu.faulted (Cpu.ticks n m.cpu m.host #[]) = false := by
    cases hp : m.cpu.flags.paused with
    | true =>
      rw [Cpu.ticks_paused hp]
      exact ⟨⟨⟨ha, rfl, rfl⟩, .refl⟩, rfl⟩
    | false =>
      simp only [executing, hp, Bool.false_eq_true, if_false] at hu
      exact ticks_waitsSince h ha hp hu #[]
  rw [Cpu.runFrame_of_not_fault hf]
  apply present_waitsSince
  refine ⟨⟨?_, ?_, ?_⟩, hs.host⟩
  · exact (congrArg Flags.awaitingKey (Cpu.timed_flags _ _)).trans hs.cpu.awaiting
  all_goals
    simp only [Run.machine, Cpu.timed]
    split
  · exact hs.cpu.pc
  · exact hs.cpu.pc
  · exact hs.cpu.memory
  · exact hs.cpu.memory

/-- A use that does not start the program again leaves the machine waiting if no key is held. -/
theorem use_waitsSince (h : m.cpu.WaitsInPlace) (ha : m.cpu.flags.awaitingKey = true) {u : Use σ}
    (hu : u.LeavesWait m.cpu) (hs : u.startsAgain = false)
    (hk : ∀ k ∈ m.executing u, k.Unheld) :
    (m.use u).cpu.WaitsSince m.cpu ∧
      ∀ op, u = .operation op → Host.Polled m.host (m.use u).host := by
  obtain ⟨x, hx⟩ := h ha
  cases u with
  | change f => exact ⟨⟨ha, rfl, rfl⟩, nofun⟩
  | operation op =>
    suffices hop : (m.cpu.perform m.host op).machine.WaitsSince m by
      exact ⟨hop.cpu, fun _ _ => hop.host⟩
    cases op with
    | tick =>
      cases hp : m.cpu.flags.paused with
      | true =>
        rw [Cpu.perform, Cpu.tick_paused m.host hp]
        simp only [Run.machine]
        split
        · exact ⟨⟨ha, rfl, rfl⟩, .refl⟩
        · exact ⟨⟨ha, rfl, rfl⟩, .refl⟩
      | false =>
        simp only [executing, hp, Bool.false_eq_true, if_false, List.mem_singleton,
          forall_eq] at hk
        exact (onlyAsks_of_atWait hx hp).waitsSince hk
    | stepOnce =>
      have hunheld : m.Unheld := hk { m with cpu.flags.paused := false } List.mem_cons_self
      exact stepOnce_waitsSince hx hunheld
    | frame n => exact runFrame_waitsSince hx ha hk
    -- from here on nothing is executed, and the flag and the memory are left alone
    | setRegister r b =>
      obtain ⟨v, he⟩ := m.cpu.setRegister_eq r b
      rw [Cpu.perform, Run.ofChange, he]
      exact ⟨⟨ha, rfl, rfl⟩, .refl⟩
    | addBreakpoint a =>
      obtain ⟨breakpoints, he⟩ := m.cpu.addBreakpoint_eq a
      rw [Cpu.perform, he]
      exact ⟨⟨ha, rfl, rfl⟩, .refl⟩
    | setFlags flags => exact ⟨⟨hu.trans ha, rfl, rfl⟩, .refl⟩
    | restart | reset => cases hs
    | loadProgram | load | write | writeWord | clear => exact hu.elim
    | _ => exact ⟨⟨ha, rfl, rfl⟩, .refl⟩

/-- Whatever the use, its ticks find the machine waiting up to the first with a key held. -/
theorem executing_waitsSince (h : m.cpu.WaitsInPlace) (ha : m.cpu.flags.awaitingKey = true)
    {u : Use σ} {before after : List (Machine σ)} {k : Machine σ}
    (he : m.executing u = before ++ k :: after) (hb : ∀ b ∈ before, b.Unheld) :
    k.WaitsSince m ∧ k.OnlyAsks := by
  obtain ⟨x, hx⟩ := h ha
  suffices hk : k.WaitsSince m ∧ k.cpu.flags.paused = false by
    exact ⟨hk.1, onlyAsks_of_atWait (hk.1.cpu.atWait hx) hk.2⟩
  have hsingle {a : Machine σ} (he : [a] = before ++ k :: after) : k = a := by
    cases before with
    | nil => exact (List.cons.inj he).1.symm
    | cons b before => simp at he
  unfold executing at he
  split at he
  · cases hp : m.cpu.flags.paused with
    | true => simp [hp] at he
    | false =>
      simp only [hp, Bool.false_eq_true, if_false] at he
      rw [hsingle he]
      exact ⟨.refl ha, hp⟩
  · cases hp : m.cpu.flags.paused with
    | true => simp [hp] at he
    | false =>
      simp only [hp, Bool.false_eq_true, if_false] at he
      exact ticking_waitsSince hx ha hp he hb
  · rw [hsingle he]
    exact ⟨⟨⟨ha, rfl, rfl⟩, .refl⟩, rfl⟩
  · simp at he

/-! ### A course of uses -/

variable {uses : Nat → Use σ}

theorem waitsInPlace_used (h : m.cpu.WaitsInPlace)
    (huses : ∀ t, (uses t).LeavesWait (m.used uses t).cpu) (t : Nat) :
    (m.used uses t).cpu.WaitsInPlace := by
  induction t with
  | zero => exact h
  | succ t ih => exact waitsInPlace_use ih (huses t)

/-- From one time to another no tick found a key held, and the program was not started again. -/
def Sleeps (m : Machine σ) (uses : Nat → Use σ) (s t : Nat) : Prop :=
  ∀ r, s ≤ r → r < t → (uses r).startsAgain = false ∧
    ∀ k ∈ (m.used uses r).executing (uses r), k.Unheld

theorem used_waitsSince (h : m.cpu.WaitsInPlace)
    (huses : ∀ t, (uses t).LeavesWait (m.used uses t).cpu) {s t : Nat} (hst : s ≤ t)
    (ha : (m.used uses s).cpu.flags.awaitingKey = true) (hs : m.Sleeps uses s t) :
    (m.used uses t).cpu.WaitsSince (m.used uses s).cpu ∧
      ∀ r, s ≤ r → r < t → ∀ op, uses r = .operation op →
        Host.Polled (m.used uses r).host (m.used uses (r + 1)).host := by
  induction t, hst using Nat.le_induction with
  | base => exact ⟨⟨ha, rfl, rfl⟩, fun r hsr hrs => by omega⟩
  | succ t hst ih =>
    obtain ⟨hwait, hpolled⟩ := ih fun r hsr hrt => hs r hsr (by omega)
    obtain ⟨hagain, hunheld⟩ := hs t hst (by omega)
    obtain ⟨hnext, hhost⟩ := use_waitsSince (waitsInPlace_used h huses t) hwait.awaiting (huses t)
      hagain hunheld
    refine ⟨hwait.trans hnext, fun r hsr hrt => ?_⟩
    rcases Nat.lt_succ_iff_lt_or_eq.mp hrt with hlt | rfl
    · exact hpolled r hsr hlt
    · exact hhost

/-- A processor that says that it waits stands at an instruction that waits, before every use and
before every tick. While no tick finds a key held, it stays there and its memory stays as it is; each
tick only asks for the keys; and the first to find one held ends the waiting. -/
theorem waits_until_held {program : List UInt8} {breakpoints : List UInt16} {flags : Flags}
    {cpu : Cpu} (hcpu : Cpu.ofProgram program breakpoints flags = .ok cpu)
    (hflags : flags.awaitingKey = false) (host : σ)
    (huses : ∀ t, (uses t).LeavesWait (used ⟨cpu, host⟩ uses t).cpu) :
    let m : Nat → Machine σ := used ⟨cpu, host⟩ uses
    (∀ t, (m t).cpu.WaitsInPlace ∧ ∀ k ∈ (m t).executing (uses t), k.cpu.WaitsInPlace) ∧
    ∀ s t, s ≤ t → (m s).cpu.flags.awaitingKey = true → Sleeps ⟨cpu, host⟩ uses s t →
      (m t).cpu.WaitsSince (m s).cpu ∧
      (∀ r, s ≤ r → r < t → ∀ op, uses r = .operation op →
        Host.Polled (m r).host (m (r + 1)).host) ∧
      ∀ before k after, (m t).executing (uses t) = before ++ k :: after →
        (∀ b ∈ before, b.Unheld) →
          k.cpu.WaitsSince (m s).cpu ∧ Host.Polled (m t).host k.host ∧ k.OnlyAsks := by
  intro m
  have hstart : cpu.WaitsInPlace := by
    obtain ⟨memory, rfl⟩ := Cpu.ofProgram_ok hcpu
    exact Cpu.waitsInPlace_of_not hflags
  have hplace : ∀ t, (m t).cpu.WaitsInPlace :=
    waitsInPlace_used (m := ⟨cpu, host⟩) hstart huses
  refine ⟨fun t => ⟨hplace t, waitsInPlace_executing (hplace t) (uses t)⟩, ?_⟩
  intro s t hst ha hs
  obtain ⟨hwait, hpolled⟩ := used_waitsSince (m := ⟨cpu, host⟩) hstart huses hst ha hs
  refine ⟨hwait, hpolled, fun before k after he hb => ?_⟩
  obtain ⟨hk, hasks⟩ := executing_waitsSince (hplace t) hwait.awaiting he hb
  exact ⟨hwait.trans hk.cpu, hk.host, hasks⟩

/-- A program that waits is run for a frame, a key goes down, and the next tick takes it. -/
theorem waits_until_held_pressed :
    let cpu := (Cpu.ofProgram [0xf0, 0x0a] [] .none).toOption.getD .initial
    let uses : Nat → Use Headless
      | 0 => .operation (.frame 3)
      | 1 => .change fun h => { h with keypad := ⟨0x20⟩ }
      | _ => .operation .tick
    let m : Nat → Machine Headless := used ⟨cpu, Headless.seeded 0⟩ uses
    (∀ t, (uses t).LeavesWait (m t).cpu) ∧ (∀ t, (m t).cpu.WaitsInPlace) ∧
      (m 2).cpu.WaitsSince (m 1).cpu ∧ (m 2).OnlyAsks ∧ ¬(m 2).Unheld := by
  intro cpu uses m
  have hcpu : Cpu.ofProgram [0xf0, 0x0a] [] .none = .ok cpu := rfl
  have huses : ∀ t, (uses t).LeavesWait (m t).cpu := by
    rintro (_ | _ | t)
    · trivial
    · trivial
    · trivial
  obtain ⟨hplace, hwaits⟩ := waits_until_held hcpu rfl (Headless.seeded 0) huses
  have ha : (m 1).cpu.flags.awaitingKey = true := by decide +kernel
  have hs : Sleeps ⟨cpu, Headless.seeded 0⟩ uses 1 2 := by
    intro r hr hr'
    obtain rfl : r = 1 := by omega
    exact ⟨rfl, fun k hk => absurd hk List.not_mem_nil⟩
  obtain ⟨hwait, _, hticks⟩ := hwaits 1 2 (by omega) ha hs
  have he : (m 2).executing (uses 2) = [] ++ m 2 :: [] := by
    have hp : (m 2).cpu.flags.paused = false := by decide +kernel
    exact if_neg (by simp [hp])
  refine ⟨huses, fun t => (hplace t).1, hwait, (hticks [] (m 2) [] he (by simp)).2.2, ?_⟩
  have hk : (Host.keys (m 2).host).1 = 0x20 := by decide +kernel
  intro hu
  cases hk.symm.trans hu

end Machine

end Chip8
