import Chip8.Headless
import Chip8.Proofs.Assembly
import Chip8.Proofs.Panel
import Chip8.Proofs.SideBySide
import Chip8.Proofs.Usage

/-! Tracing tells of every instruction and changes none. A machine that is traced writes one line
for each tick that a pause does not leave out, whether the tick ends well or not, with its number,
and the address and the word that it found. A machine that is not traced writes nothing, and is in
all else the same. -/

namespace Chip8

/-- Leaves the switches to the machine itself. -/
def Operation.leavesFlags : Operation → Bool
  | .setFlags _ => false
  | _ => true

def Use.leavesFlags {σ : Type} : Use σ → Bool
  | .operation op => op.leavesFlags
  | .change _ => true

namespace Cpu

/-- The same processor, with tracing switched off. -/
def untraced (cpu : Cpu) : Cpu := { cpu with flags.tracing := false }

variable {σ : Type} [Host σ]

/-! ### Without tracing -/

theorem execute_untraced (cpu : Cpu) (host : σ) (i : Instruction) :
    cpu.untraced.execute host i =
      { cpu.execute host i with cpu := (cpu.execute host i).cpu.untraced } := by
  have hself := cpu.flags.dialect.tellsApart_self i
  refine (execute_setUp host { cpu.panel with tracing := false } hself).trans ?_
  rw [← cpu.execute_panel host i, ← cpu.execute_dialect host i]
  rfl

/-- The second processor is the first, untraced. -/
def Untraces (a b : Cpu) : Prop := b = a.untraced

/-- There are no lines on the second side. -/
def Silent (_ lines : Array String) : Prop := lines = #[]

theorem untraces_simulation : Simulation Untraces (Eq : σ → σ → Prop) Silent where
  paused := by
    rintro a _ rfl
    rfl
  countPaused := by
    rintro a _ rfl
    rfl
  dirty := by
    rintro a _ rfl
    rfl
  pc := by
    rintro a _ rfl
    rfl
  memory := by
    rintro a _ rfl
    rfl
  breakpoints := by
    rintro a _ rfl
    rfl
  countCycle := by
    rintro a _ rfl
    rfl
  setPaused := by
    rintro a _ paused rfl
    rfl
  shown := by
    rintro a _ rfl
    rfl
  runTimers := by
    rintro a _ rfl
    rfl
  execute := by
    rintro a _ host _ i rfl rfl
    rw [execute_untraced]
    exact ⟨rfl, rfl, rfl⟩
  present := by
    rintro host _ rfl
    exact ⟨rfl, rfl⟩
  silent := rfl
  traceNext := by
    rintro a _ word rfl
    rfl
  append := by
    rintro _ _ _ _ rfl rfl
    rfl

/-- No operation but a setting of the switches asks whether it is traced. -/
theorem perform_untraced (cpu : Cpu) (host : σ) {op : Operation} (h : op.leavesFlags = true) :
    (cpu.perform host op).Related Untraces Eq Silent (cpu.untraced.perform host op) := by
  cases op with
  | setFlags flags => cases h
  | tick => exact untraces_simulation.tick rfl rfl
  | stepOnce => exact untraces_simulation.stepOnce rfl rfl
  | frame n => exact untraces_simulation.runFrame rfl rfl n
  | setRegister r b =>
    simp only [perform, setRegister]
    split <;> exact ⟨rfl, rfl, rfl, rfl⟩
  | addBreakpoint a =>
    simp only [perform, addBreakpoint]
    have hbreakpoints : cpu.untraced.breakpoints = cpu.breakpoints := rfl
    rw [hbreakpoints]
    split <;> exact ⟨rfl, rfl, rfl, rfl⟩
  | _ => exact ⟨rfl, rfl, rfl, rfl⟩

/-! ### With tracing -/

theorem newline_not_mem_traceLine (cycle : Nat) (pc word : UInt16) :
    '\n' ∉ (traceLine cycle pc word).toList := by
  have hcycle : '\n' ∉ Nat.toDigits 10 cycle := by
    intro hmem
    have hdigit := Nat.isDigit_of_mem_toDigits (by decide) (by decide) hmem
    cases hdigit
  have hpc : '\n' ∉ (Hex.lower 3 pc.toNat).toList := Hex.not_mem_write (by decide) _ _ _
  have htext := Disassembler.coloured.newline_not_mem_text word
  have hgrey : '\n' ∉ (Ansi.escape [Colour.brightBlack.code]).toList := by decide
  have hdefault : '\n' ∉ (Ansi.escape [39]).toList := by decide
  simp [traceLine, Ansi.coloured, Align.left, Align.right, Align.spaces, hcycle, hpc, htext, hgrey,
    hdefault]

theorem tick_trace (cpu : Cpu) (host : σ) :
    (cpu.tick host).trace = if cpu.flags.paused then #[] else cpu.traceNext cpu.fetch := by
  obtain ⟨hp, ht⟩ | ⟨e, hp, _, ht⟩ | ⟨i, done, hp, _, _, rfl, ⟨_, ht⟩ | ⟨_, ht⟩⟩ :=
    cpu.tick_cases host
  all_goals
    rw [ht, hp]
    rfl

theorem tick_tracing (cpu : Cpu) (host : σ) :
    (cpu.tick host).cpu.flags.tracing = cpu.flags.tracing := by
  rw [tick_frame]

theorem present_trace (run : Run σ) : (present run).trace = run.trace := by
  cases hd : run.cpu.flags.dirty with
  | true => rw [present_dirty hd]
  | false => rw [present_clean hd]

theorem runFrame_trace (cpu : Cpu) (host : σ) (n : Nat) :
    (cpu.runFrame host n).trace = (ticks n cpu host #[]).trace := by
  cases hf : faulted (ticks n cpu host #[]) with
  | true => rw [runFrame_of_fault hf]
  | false => rw [runFrame_of_not_fault hf, present_trace]

theorem stepOnce_trace (cpu : Cpu) (host : σ) :
    (cpu.stepOnce host).trace = (({ cpu with flags.paused := false } : Cpu).tick host).trace := by
  cases hf : faulted (cpu.stepTick host) with
  | true =>
    rw [stepOnce_of_fault hf]
    rfl
  | false =>
    rw [stepOnce_of_not_fault hf, present_trace]
    rfl

theorem perform_tracing (cpu : Cpu) (host : σ) {op : Operation} (h : op.leavesFlags = true) :
    (cpu.perform host op).cpu.flags.tracing = cpu.flags.tracing := by
  cases op with
  | setFlags flags => cases h
  | tick => exact cpu.tick_tracing host
  | stepOnce =>
    apply stepOnce_induction (P := fun c => c.flags.tracing = cpu.flags.tracing)
    · intro c host hc
      rw [tick_tracing, hc]
    · exact fun _ _ hc => hc
    · exact fun _ hc => hc
    · rfl
  | frame n =>
    apply runFrame_induction (P := fun c => c.flags.tracing = cpu.flags.tracing)
    · intro c host hc
      rw [tick_tracing, hc]
    · exact fun _ hc => hc
    · exact fun _ hc => hc
    · rfl
  | setRegister r b =>
    obtain ⟨v, he⟩ := cpu.setRegister_eq r b
    rw [perform, Run.ofChange, he]
  | addBreakpoint a =>
    obtain ⟨breakpoints, he⟩ := cpu.addBreakpoint_eq a
    rw [perform, Run.ofChange, he]
  | _ => rfl

end Cpu

namespace Machine

variable {σ : Type} [Host σ]

def untraced (m : Machine σ) : Machine σ := { m with cpu := m.cpu.untraced }

/-- The machines before each of the ticks of a use, also of those that a pause leaves out. -/
def ticksOf (m : Machine σ) : Use σ → List (Machine σ)
  | .operation .tick => [m]
  | .operation (.frame n) => m.ticking n
  | .operation .stepOnce => [{ m with cpu.flags.paused := false }]
  | _ => []

/-- The ticks of a machine in use, up to a time. -/
def ticksUntil (m : Machine σ) (uses : Nat → Use σ) (t : Nat) : List (Machine σ) :=
  (List.range t).flatMap fun s => (m.used uses s).ticksOf (uses s)

/-- What a machine in use has written, up to a time. -/
def linesUntil (m : Machine σ) (uses : Nat → Use σ) (t : Nat) : List String :=
  (List.range t).flatMap fun s => ((m.used uses s).use (uses s)).trace.toList

theorem ticks_trace (n : Nat) (m : Machine σ) (before : Array String) :
    (Cpu.ticks n m.cpu m.host before).trace.toList =
      before.toList ++ (m.ticking n).flatMap fun k => k.tick.trace.toList := by
  induction n generalizing m before with
  | zero => simp [Cpu.ticks, ticking]
  | succ n ih =>
    rw [ticking, List.flatMap_cons]
    unfold Cpu.ticks
    split
    case h_1 ht =>
      have hn : m.next = ⟨_, _⟩ := congrArg Run.machine ht
      have hr : m.tick.result = _ := congrArg Run.result ht
      have hl : m.tick.trace = _ := congrArg Run.trace ht
      rw [hr, hl, hn, ih ⟨_, _⟩, Array.toList_append, List.append_assoc]
    case h_2 ht =>
      have hr : m.tick.result = _ := congrArg Run.result ht
      have hl : m.tick.trace = _ := congrArg Run.trace ht
      rw [hr, hl, List.flatMap_nil, List.append_nil, Array.toList_append]

/-- A use writes what its ticks write. -/
theorem use_trace (m : Machine σ) (u : Use σ) :
    (m.use u).trace.toList = (m.ticksOf u).flatMap fun k => k.tick.trace.toList := by
  rcases u with op | f
  · cases op with
    | tick => simp [use, Cpu.perform, ticksOf, tick]
    | stepOnce => simp [use, Cpu.perform, ticksOf, tick, Cpu.stepOnce_trace]
    | frame n => simpa [use, Cpu.perform, ticksOf, Cpu.runFrame_trace] using ticks_trace n m #[]
    | _ => rfl
  · rfl

theorem linesUntil_eq (m : Machine σ) (uses : Nat → Use σ) (t : Nat) :
    m.linesUntil uses t = (m.ticksUntil uses t).flatMap fun k => k.tick.trace.toList := by
  simp only [linesUntil, ticksUntil, use_trace, List.flatMap_assoc]

theorem ticking_tracing {n : Nat} {m : Machine σ} {b : Bool} (h : m.cpu.flags.tracing = b) :
    ∀ k ∈ m.ticking n, k.cpu.flags.tracing = b := by
  induction n generalizing m with
  | zero => simp [ticking]
  | succ n ih =>
    have hnext : m.next.cpu.flags.tracing = b := (m.cpu.tick_tracing m.host).trans h
    rw [ticking, List.forall_mem_cons]
    refine ⟨h, ?_⟩
    split
    · exact ih hnext
    · simp

theorem ticksOf_tracing {m : Machine σ} {b : Bool} (h : m.cpu.flags.tracing = b) (u : Use σ) :
    ∀ k ∈ m.ticksOf u, k.cpu.flags.tracing = b := by
  unfold ticksOf
  split
  · simpa using h
  · exact ticking_tracing h
  · simpa using h
  · simp

theorem used_tracing (m : Machine σ) {uses : Nat → Use σ}
    (huses : ∀ s, (uses s).leavesFlags = true) (t : Nat) :
    (m.used uses t).cpu.flags.tracing = m.cpu.flags.tracing := by
  induction t with
  | zero => rfl
  | succ t ih =>
    rw [← ih, used]
    have hu := huses t
    generalize uses t = u at hu ⊢
    cases u with
    | operation op => exact Cpu.perform_tracing _ _ hu
    | change f => rfl

theorem ticksUntil_tracing {m : Machine σ} (hon : m.cpu.flags.tracing = true) {uses : Nat → Use σ}
    (huses : ∀ s, (uses s).leavesFlags = true) (t : Nat) :
    ∀ k ∈ m.ticksUntil uses t, k.cpu.flags.tracing = true := by
  intro k hk
  obtain ⟨s, -, hk⟩ := List.mem_flatMap.mp hk
  exact ticksOf_tracing ((m.used_tracing huses s).trans hon) (uses s) k hk

/-- The line of a tick, with the number that the counter has after it. -/
theorem tick_trace_of_tracing {k : Machine σ} (hp : k.cpu.flags.paused = false)
    (hon : k.cpu.flags.tracing = true) :
    k.tick.trace = #[Cpu.traceLine k.next.cpu.cycle k.cpu.pc k.cpu.fetch] := by
  have hcycle : k.next.cpu.cycle = k.cpu.cycle + 1 := Cpu.tick_cycle k.host hp
  rw [tick, Cpu.tick_trace, hp, hcycle, Cpu.traceNext, hon]
  rfl

theorem flatMap_tick_trace {l : List (Machine σ)} (h : ∀ k ∈ l, k.cpu.flags.tracing = true) :
    (l.flatMap fun k => k.tick.trace.toList) =
      (l.filter fun k => !k.cpu.flags.paused).map fun k =>
        Cpu.traceLine k.next.cpu.cycle k.cpu.pc k.cpu.fetch := by
  induction l with
  | nil => rfl
  | cons k l ih =>
    rw [List.forall_mem_cons] at h
    rw [List.flatMap_cons, ih h.2]
    cases hp : k.cpu.flags.paused with
    | true => simp [tick, Cpu.tick_trace, hp]
    | false => simp [tick_trace_of_tracing hp h.1, hp]

/-! ### The two beside each other -/

theorem use_untraced (m : Machine σ) {u : Use σ} (h : u.leavesFlags = true) :
    (m.use u).Related Cpu.Untraces Eq Cpu.Silent (m.untraced.use u) := by
  cases u with
  | operation op => exact m.cpu.perform_untraced m.host h
  | change f => exact ⟨rfl, rfl, rfl, rfl⟩

theorem used_untraced (m : Machine σ) {uses : Nat → Use σ}
    (huses : ∀ s, (uses s).leavesFlags = true) (t : Nat) :
    m.untraced.used uses t = (m.used uses t).untraced := by
  induction t with
  | zero => rfl
  | succ t ih =>
    obtain ⟨hcpu, hhost, -, -⟩ := (m.used uses t).use_untraced (huses t)
    rw [used, ih, Run.machine, hcpu, ← hhost]
    rfl

/-- Tracing is faithful and has no effect. A machine that is traced, used in any way that leaves its
switches alone, has written one line for each tick that no pause left out, in their order: the count
of cycles after the tick, and the address and the word that the tick found. The same machine without
tracing, used alike on the same host, has written nothing, is in the same state but for that switch,
and gives the same results. -/
theorem tracing_faithful {m : Machine σ} (hon : m.cpu.flags.tracing = true) {uses : Nat → Use σ}
    (huses : ∀ s, (uses s).leavesFlags = true) (t : Nat) :
    m.linesUntil uses t =
      ((m.ticksUntil uses t).filter fun k => !k.cpu.flags.paused).map (fun k =>
        let word := (Opcode.ofBytes (k.cpu.memory.read k.cpu.pc.toNat)
          (k.cpu.memory.read ((k.cpu.pc.toNat + 1) % 0x1000))).word
        Ansi.coloured .brightBlack (Align.right 3 k.next.cpu.cycle.repr) ++ " " ++
          Hex.lower 3 k.cpu.pc.toNat ++ ": " ++ Align.left 36 (Disassembler.coloured.text word)) ∧
    (∀ line ∈ m.linesUntil uses t, '\n' ∉ line.toList) ∧
    m.untraced.linesUntil uses t = [] ∧
    m.untraced.used uses t = (m.used uses t).untraced ∧
    ((m.untraced.used uses t).use (uses t)).result = ((m.used uses t).use (uses t)).result := by
  have hlines : m.linesUntil uses t =
      ((m.ticksUntil uses t).filter fun k => !k.cpu.flags.paused).map fun k =>
        Cpu.traceLine k.next.cpu.cycle k.cpu.pc k.cpu.fetch := by
    rw [linesUntil_eq, flatMap_tick_trace (ticksUntil_tracing hon huses t)]
  refine ⟨?_, ?_, ?_, m.used_untraced huses t, ?_⟩
  · simp only [hlines, Cpu.traceLine, Cpu.fetch, Memory.readWord, Memory.read_mod]
  · intro line hline
    rw [hlines] at hline
    obtain ⟨k, -, rfl⟩ := List.mem_map.mp hline
    exact Cpu.newline_not_mem_traceLine _ _ _
  · refine List.flatMap_eq_nil_iff.mpr fun s _ => ?_
    rw [m.used_untraced huses s, ((m.used uses s).use_untraced (huses s)).trace]
  · rw [m.used_untraced huses t]
    exact ((m.used uses t).use_untraced (huses t)).result.symm

/-- A program that overwrites its first instruction, with a breakpoint where it ends. -/
def overwriting : Cpu :=
  { Cpu.initial with
    memory := Cpu.initial.memory.load 0x200 [0xa2, 0x00, 0xf0, 0x55]
    breakpoints := [0x204]
    flags.tracing := true }

/-- A frame, a tick that is left out, and single steps. -/
def halting : Nat → Use Headless
  | 0 => .operation (.frame 5)
  | 1 => .operation .tick
  | _ => .operation .stepOnce

theorem tracing_faithful_overwriting :
    let m : Machine Headless := ⟨overwriting, Headless.seeded 0⟩
    m.linesUntil halting 4 =
      [Cpu.traceLine 1 0x200 0xa200, Cpu.traceLine 2 0x202 0xf055, Cpu.traceLine 3 0x204 0x0000,
        Cpu.traceLine 4 0x204 0x0000] ∧
    (m.used halting 4).cpu.memory.readWord 0x200 = 0x0000 ∧
    m.untraced.linesUntil halting 4 = [] ∧
    m.untraced.used halting 4 = (m.used halting 4).untraced := by
  intro m
  have hleaves : ∀ s, (halting s).leavesFlags = true := by
    intro s
    match s with
    | 0 | 1 | _ + 2 => rfl
  obtain ⟨hlines, -, hnone, hsame, -⟩ := tracing_faithful (m := m) rfl hleaves 4
  refine ⟨?_, by decide +kernel, hnone, hsame⟩
  rw [hlines]
  decide +kernel

end Machine
end Chip8
