import Chip8.Proofs.Execute

/-! What the owner of a processor sets up: the front panel, with its counter, its breakpoints and its
switches, and the dialect. No instruction reads the panel or changes it, and each question on which
dialects disagree is asked by instructions of its own. So a program does the same behind every panel,
and in every dialect that its instructions do not tell apart. Two flags are written by instructions;
none of them reads these either. -/

namespace Chip8

structure Panel where
  tracing : Bool
  paused : Bool
  countPaused : Bool
  cycle : Nat
  breakpoints : List UInt16

namespace Cpu

def panel (cpu : Cpu) : Panel :=
  ⟨cpu.flags.tracing, cpu.flags.paused, cpu.flags.countPaused, cpu.cycle, cpu.breakpoints⟩

/-- The same processor behind another panel. -/
def withPanel (cpu : Cpu) (p : Panel) : Cpu :=
  { cpu with
    flags := { cpu.flags with
      tracing := p.tracing
      paused := p.paused
      countPaused := p.countPaused }
    cycle := p.cycle
    breakpoints := p.breakpoints }

/-- The same processor with another dialect. -/
def withDialect (cpu : Cpu) (d : Dialect) : Cpu := { cpu with flags.dialect := d }

/-- The same processor, set up by another owner. -/
def setUp (cpu : Cpu) (p : Panel) (d : Dialect) : Cpu := (cpu.withPanel p).withDialect d

/-- The same processor with other flags, another count of cycles and other breakpoints. -/
def switched (cpu : Cpu) (flags : Flags) (cycle : Nat) (breakpoints : List UInt16) : Cpu :=
  { cpu with flags, cycle, breakpoints }

end Cpu

def Executed.setUp {σ : Type} (done : Executed σ) (p : Panel) (d : Dialect) : Executed σ :=
  { done with cpu := done.cpu.setUp p d }

/-! ### Dialects -/

/-- Whether an instruction may do different things in two dialects. A shift has a choice only if it is
given two registers. -/
def Dialect.tellsApart (d e : Dialect) : Instruction → Bool
  | .or .. | .and .. | .xor .. => d.clearFlag != e.clearFlag
  | .shr x y | .shl x y => x != y && d.shiftFromY != e.shiftFromY
  | .dmao _ | .dmai _ => d.passBlocks != e.passBlocks
  | _ => false

theorem Dialect.tellsApart_self (d : Dialect) (i : Instruction) : d.tellsApart d i = false := by
  cases i <;> simp [tellsApart]

namespace Registers

variable {d e : Dialect}

theorem resetFlag_congr (v : Registers) (h : (d.clearFlag != e.clearFlag) = false) :
    v.resetFlag e = v.resetFlag d := by
  unfold resetFlag
  rw [bne_eq_false_iff_eq.mp h]

theorem shiftOperand_congr (v : Registers) {x y : Nat}
    (h : (x != y && d.shiftFromY != e.shiftFromY) = false) :
    v.shiftOperand e x y = v.shiftOperand d x y := by
  unfold shiftOperand
  rcases Bool.and_eq_false_iff.mp h with hxy | hd
  · rw [bne_eq_false_iff_eq.mp hxy, ite_self, ite_self]
  · rw [bne_eq_false_iff_eq.mp hd]

end Registers

/-! ### Instructions -/

namespace Cpu

variable {cpu : Cpu} {d : Dialect} {flags : Flags} {cycle : Nat} {breakpoints : List UInt16}

theorem skipIf_switched (cpu : Cpu) (b : Bool) :
    (cpu.switched flags cycle breakpoints).skipIf b =
      (cpu.skipIf b).switched flags cycle breakpoints := by
  cases b <;> rfl

theorem passBlock_switched (cpu : Cpu)
    (h : (cpu.flags.dialect.passBlocks != flags.dialect.passBlocks) = false) (x : Nat) :
    (cpu.switched flags cycle breakpoints).passBlock x =
      (cpu.passBlock x).switched flags cycle breakpoints := by
  have hd := bne_eq_false_iff_eq.mp h
  unfold passBlock
  by_cases hp : cpu.flags.dialect.passBlocks = true
  · rw [if_pos hp]
    exact if_pos (hd ▸ hp)
  · rw [if_neg hp]
    exact if_neg (hd ▸ hp)

variable {σ : Type} [Host σ]

theorem skipOnKey_switched (cpu : Cpu) (host : σ) (x : Nat) (held : Bool) :
    (cpu.switched flags cycle breakpoints).skipOnKey host x held =
      { cpu.skipOnKey host x held with
        cpu := (cpu.skipOnKey host x held).cpu.switched flags cycle breakpoints } := by
  have hx : (cpu.switched flags cycle breakpoints).v.get x = cpu.v.get x := rfl
  simp only [skipOnKey, hx, skipIf_switched]
  rfl

/-- An instruction does the same under all flags, unless it tells the dialects apart. It writes to two
of the flags at most, and reads neither of them. -/
theorem execute_switched (host : σ) {i : Instruction}
    (h : cpu.flags.dialect.tellsApart flags.dialect i = false) :
    (cpu.switched flags cycle breakpoints).execute host i =
      { cpu.execute host i with
        cpu := (cpu.execute host i).cpu.switched
          { flags with
            awaitingKey :=
              if i.waits then (cpu.execute host i).cpu.flags.awaitingKey else flags.awaitingKey
            dirty := i.draws || flags.dirty }
          cycle breakpoints } := by
  let other := cpu.switched flags cycle breakpoints
  cases i with
  | ret =>
    cases hd : cpu.stack.depth with
    | zero =>
      have hp : other.stack.depth = 0 := hd
      rw [execute, execute, returnFrom_empty host hd, returnFrom_empty host hp]
      rfl
    | succ n =>
      have hp : other.stack.depth = n + 1 := hd
      rw [execute, execute, returnFrom_succ host hd, returnFrom_succ host hp]
      rfl
  | call a =>
    rcases Nat.lt_or_ge cpu.stack.depth CallStack.capacity with hd | hd
    · have hp : other.stack.depth < CallStack.capacity := hd
      rw [execute, execute, call_room host a hd, call_room host a hp]
      rfl
    · have hp : CallStack.capacity ≤ other.stack.depth := hd
      rw [execute, execute, call_full host a hd, call_full host a hp]
      rfl
  | seb | sneb | se | sne =>
    simp only [execute, Executed.done, skipIf_switched]
    rfl
  | sek | snek =>
    simp only [execute, skipOnKey_switched]
    rfl
  | waitk =>
    simp only [execute, waitForKey]
    split <;> rfl
  | or | and | xor =>
    exact congrArg (fun v => Executed.done { other.advance with v } host)
      (Registers.resetFlag_congr _ h)
  | shr x =>
    exact congrArg (fun s : UInt8 => Executed.done { other.advance with
        v := (cpu.v.set x (s >>> 1)).set Registers.flag (s &&& 1) } host)
      (Registers.shiftOperand_congr _ h)
  | shl x =>
    exact congrArg (fun s : UInt8 => Executed.done { other.advance with
        v := (cpu.v.set x (s <<< 1)).set Registers.flag (s >>> 7) } host)
      (Registers.shiftOperand_congr _ h)
  | dmao x =>
    let stored : Cpu := { cpu.advance with
      memory := cpu.memory.load cpu.i.toNat (cpu.v.toList.take (x + 1)) }
    exact congrArg (Executed.done · host) (stored.passBlock_switched h x)
  | dmai x =>
    let loaded : Cpu := { cpu.advance with
      v := cpu.v.load 0 (cpu.memory.readBytes cpu.i.toNat (x + 1)) }
    exact congrArg (Executed.done · host) (loaded.passBlock_switched h x)
  | _ => rfl

theorem execute_flags (cpu : Cpu) (host : σ) (i : Instruction) :
    (cpu.execute host i).cpu.flags =
      { cpu.flags with
        awaitingKey :=
          if i.waits then (cpu.execute host i).cpu.flags.awaitingKey else cpu.flags.awaitingKey
        dirty := i.draws || cpu.flags.dirty } :=
  congrArg Cpu.flags (cpu.execute_frame host i)

/-- An instruction does the same behind every panel, and in every dialect that it does not tell from
that of the processor. -/
theorem execute_setUp (host : σ) {i : Instruction} (p : Panel)
    (h : cpu.flags.dialect.tellsApart d i = false) :
    (cpu.setUp p d).execute host i = (cpu.execute host i).setUp p d := by
  let others (f : Flags) : Flags :=
    ⟨p.tracing, p.paused, f.awaitingKey, f.dirty, d, p.countPaused⟩
  have hflags := congrArg others (cpu.execute_flags host i)
  refine (execute_switched host h : (cpu.switched (others cpu.flags) _ _).execute host i = _).trans ?_
  exact congrArg (fun f => { cpu.execute host i with
    cpu := (cpu.execute host i).cpu.switched f p.cycle p.breakpoints }) hflags.symm

theorem execute_panel (cpu : Cpu) (host : σ) (i : Instruction) :
    (cpu.execute host i).cpu.panel = cpu.panel := by
  rw [execute_frame]
  rfl

theorem execute_dialect (cpu : Cpu) (host : σ) (i : Instruction) :
    (cpu.execute host i).cpu.flags.dialect = cpu.flags.dialect := by
  rw [execute_frame]

theorem execute_withDialect (cpu : Cpu) (host : σ) {d : Dialect} {i : Instruction}
    (h : cpu.flags.dialect.tellsApart d i = false) :
    (cpu.withDialect d).execute host i =
      { cpu.execute host i with cpu := (cpu.execute host i).cpu.withDialect d } := by
  refine (execute_setUp host cpu.panel h).trans ?_
  rw [← cpu.execute_panel host i]
  rfl

theorem execute_withBreakpoints (cpu : Cpu) (host : σ) (i : Instruction)
    (breakpoints : List UInt16) :
    ({ cpu with breakpoints } : Cpu).execute host i =
      { cpu.execute host i with cpu := { (cpu.execute host i).cpu with breakpoints } } := by
  have hself := cpu.flags.dialect.tellsApart_self i
  refine (execute_setUp host { cpu.panel with breakpoints } hself).trans ?_
  rw [← cpu.execute_panel host i, ← cpu.execute_dialect host i]
  rfl

/-- No instruction asks whether there is something to show. -/
theorem execute_withDirty (cpu : Cpu) (host : σ) (i : Instruction) (dirty : Bool) :
    ({ cpu with flags.dirty := dirty } : Cpu).execute host i =
      { cpu.execute host i with
        cpu := { (cpu.execute host i).cpu with flags.dirty := i.draws || dirty } } := by
  let other : Flags := { cpu.flags with dirty }
  have hself : cpu.flags.dialect.tellsApart other.dialect i = false :=
    cpu.flags.dialect.tellsApart_self i
  have hflags := congrArg (fun f : Flags => { f with dirty := i.draws || dirty })
    (cpu.execute_flags host i)
  refine (execute_switched host hself :
    (cpu.switched other cpu.cycle cpu.breakpoints).execute host i = _).trans ?_
  rw [← cpu.execute_cycle host i, ← cpu.execute_breakpoints host i]
  exact congrArg (fun f => { cpu.execute host i with
    cpu := { (cpu.execute host i).cpu with flags := f } }) hflags.symm

end Cpu

end Chip8
