import Chip8.Proofs.Loading
import Chip8.Proofs.Lockstep
import Chip8.Proofs.WellFormed

/-! What the owner of a processor can do with it, and the states that this leads to from a processor
that has just been made. A host may change in any way between two operations, so each operation
finds a host of its own. -/

namespace Chip8

inductive Operation where
  | tick
  | stepOnce
  | frame (steps : Nat)
  | runTimers
  | setRegister (r : Nat) (b : UInt8)
  | loadProgram (program : List UInt8)
  /-- Writes bytes to memory from an address on. -/
  | load (a : Nat) (bytes : List UInt8)
  | write (a : Nat) (b : UInt8)
  | writeWord (a : Nat) (w : UInt16)
  /-- Zeroes a part of memory. -/
  | clear (start stop : Nat)
  | setMode (m : Mode)
  | setFlags (flags : Flags)
  | addBreakpoint (a : UInt16)
  | removeBreakpoint (a : UInt16)
  | restart
  | reset

/-- The run of an operation that needs no host. -/
def Run.ofChange {σ : Type} (host : σ) (change : Except Error Unit × Cpu) : Run σ :=
  ⟨change.2, host, #[], change.1⟩

namespace Cpu

def perform {σ : Type} [Host σ] (cpu : Cpu) (host : σ) : Operation → Run σ
  | .tick => cpu.tick host
  | .stepOnce => cpu.stepOnce host
  | .frame steps => cpu.runFrame host steps
  | .runTimers => .ofChange host (.ok (), cpu.runTimers)
  | .setRegister r b => .ofChange host (cpu.setRegister r b)
  | .loadProgram program => .ofChange host (cpu.loadProgram program)
  | .load a bytes => .ofChange host (.ok (), { cpu with memory := cpu.memory.load a bytes })
  | .write a b => .ofChange host (.ok (), { cpu with memory := cpu.memory.write a b })
  | .writeWord a w => .ofChange host (.ok (), { cpu with memory := cpu.memory.writeWord a w })
  | .clear start stop => .ofChange host (.ok (), { cpu with memory := cpu.memory.clear start stop })
  | .setMode m => .ofChange host (.ok (), (cpu.setMode m))
  | .setFlags flags => .ofChange host (.ok (), { cpu with flags })
  | .addBreakpoint a => .ofChange host (.ok (), (cpu.addBreakpoint a))
  | .removeBreakpoint a => .ofChange host (.ok (), (cpu.removeBreakpoint a))
  | .restart => .ofChange host (.ok (), cpu.restart)
  | .reset => .ofChange host (.ok (), cpu.reset)

/-- An operation does the same on two hosts that agree. -/
theorem perform_agree {σ τ : Type} [Host σ] [Host τ] {R : σ → τ → Prop} (h : Host.Simulation R)
    (cpu : Cpu) {s : σ} {t : τ} (hr : R s t) (op : Operation) :
    (cpu.perform s op).Agree R (cpu.perform t op) := by
  cases op with
  | tick => exact cpu.tick_agree h.toLockstep hr
  | stepOnce => exact cpu.stepOnce_agree h hr
  | frame n => exact cpu.runFrame_agree h n hr
  | _ => exact ⟨rfl, hr, rfl, rfl⟩

theorem perform_keeps {σ : Type} [Host σ] {K : σ → Prop} (h : Host.Keeps K) (cpu : Cpu) {host : σ}
    (hk : K host) (op : Operation) : K (cpu.perform host op).host :=
  (cpu.perform_agree h.simulation ⟨rfl, hk⟩ op).host.2

/-- A program that fits is taken as it is, and makes the same memory whatever else is asked for. -/
theorem ofProgram_memory {program : List UInt8} (h : program.length ≤ Memory.programRoom) :
    ∃ memory, ∀ breakpoints flags, ofProgram program breakpoints flags =
      .ok { initial with memory, breakpoints, flags } := by
  have hm := Memory.loadProgram_fits .initial h
  exact ⟨_, ofProgram_of_loadProgram hm⟩

theorem ofProgram_fits {program : List UInt8} (h : program.length ≤ Memory.programRoom)
    (breakpoints : List UInt16) (flags : Flags) :
    ∃ memory, ofProgram program breakpoints flags =
      .ok { initial with memory, breakpoints, flags } :=
  (ofProgram_memory h).imp fun _ hmemory => hmemory breakpoints flags

/-- The states of a processor that was made fresh, or for a program, and then only used. -/
inductive Reachable : Cpu → Prop
  | initial : Reachable .initial
  | ofProgram {program : List UInt8} {breakpoints : List UInt16} {flags : Flags} {cpu : Cpu} :
      Cpu.ofProgram program breakpoints flags = .ok cpu → Reachable cpu
  | perform {σ : Type} [Host σ] {cpu : Cpu} (host : σ) (op : Operation) :
      Reachable cpu → Reachable (cpu.perform host op).cpu

theorem WellFormed.of_eq {cpu cpu' : Cpu} (h : cpu.WellFormed) (hpc : cpu'.pc = cpu.pc)
    (hi : cpu'.i = cpu.i) (hs : cpu'.stack = cpu.stack) : cpu'.WellFormed :=
  ⟨hpc ▸ h.pc_lt, hi ▸ h.i_lt, hs ▸ h.stack⟩

theorem initial_wellFormed : initial.WellFormed where
  pc_lt := by decide
  i_lt := by decide
  stack := CallStack.WellFormed.empty

theorem ofProgram_ok {program : List UInt8} {breakpoints : List UInt16} {flags : Flags} {cpu : Cpu}
    (h : ofProgram program breakpoints flags = .ok cpu) :
    ∃ memory, cpu = { initial with memory, breakpoints, flags } := by
  unfold ofProgram at h
  split at h
  · next he =>
    obtain rfl := Except.ok.inj h
    exact ⟨_, (congrArg Prod.snd he).symm⟩
  · cases h

theorem setRegister_eq (cpu : Cpu) (r : Nat) (b : UInt8) :
    ∃ v, (cpu.setRegister r b).2 = { cpu with v } := by
  unfold setRegister
  split
  · exact ⟨_, rfl⟩
  · exact ⟨cpu.v, rfl⟩

theorem addBreakpoint_eq (cpu : Cpu) (a : UInt16) :
    ∃ breakpoints, cpu.addBreakpoint a = { cpu with breakpoints } := by
  unfold addBreakpoint
  split
  · exact ⟨cpu.breakpoints, rfl⟩
  · exact ⟨_, rfl⟩

theorem perform_wellFormed {σ : Type} [Host σ] {cpu : Cpu} (h : cpu.WellFormed) (host : σ)
    (op : Operation) : (cpu.perform host op).cpu.WellFormed := by
  cases op with
  | tick => exact tick_wellFormed h host
  | stepOnce =>
    exact stepOnce_induction (P := WellFormed) (fun _ host h => tick_wellFormed h host)
      (fun _ _ h => h.of_eq rfl rfl rfl) (fun _ h => h.of_eq rfl rfl rfl) h host
  | frame n =>
    exact runFrame_induction (P := WellFormed) (fun _ host h => tick_wellFormed h host)
      (fun _ h => h.of_eq rfl rfl rfl) (fun _ h => h.of_eq rfl rfl rfl) h host n
  | setRegister r b =>
    obtain ⟨v, he⟩ := cpu.setRegister_eq r b
    rw [perform, Run.ofChange, he]
    exact h.of_eq rfl rfl rfl
  | addBreakpoint a =>
    obtain ⟨breakpoints, he⟩ := cpu.addBreakpoint_eq a
    have hb : { cpu with breakpoints }.WellFormed := h.of_eq rfl rfl rfl
    rw [← he] at hb
    exact hb
  | restart => exact ⟨initial_wellFormed.pc_lt, h.i_lt, h.stack⟩
  | reset => exact initial_wellFormed.of_eq rfl rfl rfl
  | _ => exact h.of_eq rfl rfl rfl

theorem Reachable.wellFormed {cpu : Cpu} (h : Reachable cpu) : cpu.WellFormed := by
  induction h with
  | initial => exact initial_wellFormed
  | ofProgram he =>
    obtain ⟨memory, rfl⟩ := ofProgram_ok he
    exact initial_wellFormed.of_eq rfl rfl rfl
  | perform host op _ ih => exact perform_wellFormed ih host op

end Cpu

end Chip8
