import Chip8.Cpu.Execute
import Chip8.Proofs.Keypad

/-! What an instruction leaves alone, whatever it is, and when it is a fault. Only calls and returns
have faults, and a fault changes nothing. -/

namespace Chip8

namespace Instruction

/-- Clears the screen or draws on it. -/
def draws : Instruction → Bool
  | .cls | .draw .. => true
  | _ => false

def isCall : Instruction → Bool
  | .call _ => true
  | _ => false

def isReturn : Instruction → Bool
  | .ret => true
  | _ => false

/-- Waits for a key. -/
def waits : Instruction → Bool
  | .waitk _ => true
  | _ => false

def setsDelay : Instruction → Bool
  | .setdt _ => true
  | _ => false

def setsSound : Instruction → Bool
  | .movst _ => true
  | _ => false

/-- Moves `I`; block transfers do so in some dialects. -/
def movesIndex (d : Dialect) : Instruction → Bool
  | .movI _ | .addI _ | .font _ => true
  | .dmao _ | .dmai _ => d.passBlocks
  | _ => false

/-- The number of memory cells that are written, from `I` on. -/
def stored : Instruction → Nat
  | .bcd _ => 3
  | .dmao x => x + 1
  | _ => 0

end Instruction

namespace Cpu

@[simp] theorem advance_stack (cpu : Cpu) : cpu.advance.stack = cpu.stack := rfl

@[simp] theorem advance_v (cpu : Cpu) : cpu.advance.v = cpu.v := rfl

/-- A skip moves the program counter only. -/
theorem skipIf_eq (cpu : Cpu) (b : Bool) : cpu.skipIf b = { cpu with pc := (cpu.skipIf b).pc } := by
  cases b <;> rfl

theorem passBlock_eq (cpu : Cpu) (x : Nat) :
    cpu.passBlock x = { cpu with i := (cpu.passBlock x).i } := by
  unfold passBlock
  split <;> rfl

theorem passBlock_i {cpu : Cpu} (h : cpu.flags.dialect.passBlocks = false) (x : Nat) :
    (cpu.passBlock x).i = cpu.i := by
  rw [passBlock, if_neg (by simp [h])]

/-- The guard is there for numbers that name no key: of these none is held, and nobody is asked. -/
theorem isKeyHeld_eq {σ : Type} [Host σ] (host : σ) (key : UInt8) :
    isKeyHeld host key =
      if key.toNat < 16 then (Keypad.holds (Host.keys host).1 key.toNat, (Host.keys host).2)
      else (false, host) := by
  by_cases h : key.toNat < 16
  · have hbit := Keypad.bit?_of_lt h
    rw [if_pos h, ← Keypad.and_bit?_ne_zero hbit, isKeyHeld, hbit]
  · rw [if_neg h, isKeyHeld, Keypad.bit?_of_ge (Nat.not_lt.mp h)]

/-! ### Faults -/

section Stack

variable {σ : Type}

theorem returnFrom_empty {cpu : Cpu} (host : σ) (h : cpu.stack.depth = 0) :
    cpu.returnFrom host = ⟨cpu, host, some (.stackUnderflow cpu.pc)⟩ := by
  simp [returnFrom, CallStack.pop?, h]

theorem returnFrom_succ {cpu : Cpu} {d : Nat} (host : σ) (h : cpu.stack.depth = d + 1) :
    cpu.returnFrom host =
      .done { cpu with stack.depth := d, pc := cpu.stack.slots[d]?.getD 0 } host := by
  simp [returnFrom, CallStack.pop?, h]

theorem call_full {cpu : Cpu} (host : σ) (a : UInt16) (h : CallStack.capacity ≤ cpu.stack.depth) :
    cpu.call host a = ⟨cpu, host, some (.stackOverflow cpu.pc)⟩ := by
  simp [call, CallStack.push?, Nat.not_lt.mpr h]

theorem call_room {cpu : Cpu} (host : σ) (a : UInt16) (h : cpu.stack.depth < CallStack.capacity) :
    cpu.call host a =
      .done { cpu with
        stack := ⟨cpu.stack.slots.setIfInBounds cpu.stack.depth (following cpu.pc),
          cpu.stack.depth + 1⟩
        pc := a } host := by
  simp [call, CallStack.push?, h]

end Stack

/-- The fault that an instruction has in a state, if any. -/
def faultOf (cpu : Cpu) : Instruction → Option Error
  | .ret => if cpu.stack.depth = 0 then some (.stackUnderflow cpu.pc) else none
  | .call _ => if CallStack.capacity ≤ cpu.stack.depth then some (.stackOverflow cpu.pc) else none
  | _ => none

/-- Only a return and a call can fail, each at one end of the stack. -/
theorem faultOf_eq_some_iff {cpu : Cpu} {i : Instruction} {e : Error} :
    cpu.faultOf i = some e ↔
      i = .ret ∧ cpu.stack.depth = 0 ∧ e = .stackUnderflow cpu.pc ∨
        (∃ a, i = .call a) ∧ CallStack.capacity ≤ cpu.stack.depth ∧
          e = .stackOverflow cpu.pc := by
  cases i with
  | ret =>
    by_cases hd : cpu.stack.depth = 0
    · simp [faultOf, hd, eq_comm]
    · simp [faultOf, hd]
  | call a =>
    by_cases hd : CallStack.capacity ≤ cpu.stack.depth
    · simp [faultOf, hd, eq_comm]
    · simp [faultOf, hd]
  | _ => simp [faultOf]

variable {σ : Type} [Host σ]

theorem execute_fault (cpu : Cpu) (host : σ) (i : Instruction) :
    (cpu.execute host i).fault = cpu.faultOf i := by
  cases i with
  | ret =>
    cases h : cpu.stack.depth with
    | zero => simp [execute, faultOf, returnFrom_empty host h, h]
    | succ d => simp [execute, faultOf, returnFrom_succ host h, h, Executed.done]
  | call a =>
    rcases Nat.lt_or_ge cpu.stack.depth CallStack.capacity with h | h
    · simp [execute, faultOf, call_room host a h, Nat.not_le.mpr h, Executed.done]
    · simp [execute, faultOf, call_full host a h, h]
  | waitk =>
    simp only [execute, waitForKey, faultOf]
    split <;> rfl
  | _ => rfl

theorem execute_of_fault {cpu : Cpu} {i : Instruction} {e : Error} (host : σ)
    (h : cpu.faultOf i = some e) : cpu.execute host i = ⟨cpu, host, some e⟩ := by
  obtain ⟨rfl, hd, rfl⟩ | ⟨⟨a, rfl⟩, hd, rfl⟩ := faultOf_eq_some_iff.mp h
  · rw [execute, returnFrom_empty host hd]
  · rw [execute, call_full host a hd]

/-! ### What stays -/

/-- The cycle counter, the breakpoints and most flags are out of a program's reach. All else but the
registers and the program counter is left to the instructions that are there for it; those that may
move `I` are told by the dialect in which most of them do. -/
theorem execute_frame (cpu : Cpu) (host : σ) (i : Instruction) :
    (cpu.execute host i).cpu =
      { (cpu.execute host i).cpu with
        cycle := cpu.cycle
        breakpoints := cpu.breakpoints
        stack := if i.isCall || i.isReturn then (cpu.execute host i).cpu.stack else cpu.stack
        memory := if i.stored = 0 then cpu.memory else (cpu.execute host i).cpu.memory
        i := if i.movesIndex (.uniform true) then (cpu.execute host i).cpu.i else cpu.i
        delay := if i.setsDelay then (cpu.execute host i).cpu.delay else cpu.delay
        sound := if i.setsSound then (cpu.execute host i).cpu.sound else cpu.sound
        flags := { cpu.flags with
          awaitingKey :=
            if i.waits then (cpu.execute host i).cpu.flags.awaitingKey else cpu.flags.awaitingKey
          dirty := i.draws || cpu.flags.dirty } } := by
  cases i with
  | ret =>
    cases h : cpu.stack.depth with
    | zero => rw [execute, returnFrom_empty host h]; rfl
    | succ d => rw [execute, returnFrom_succ host h]; rfl
  | call a =>
    rcases Nat.lt_or_ge cpu.stack.depth CallStack.capacity with h | h
    · rw [execute, call_room host a h]; rfl
    · rw [execute, call_full host a h]; rfl
  | seb | sneb | se | sne | sek | snek =>
    simp only [execute, skipOnKey, Executed.done]
    rw [skipIf_eq]
    rfl
  | waitk =>
    simp only [execute, waitForKey]
    split <;> rfl
  | dmao | dmai =>
    simp only [execute, storeBlock, loadBlock, Executed.done]
    rw [passBlock_eq]
    rfl
  | _ => rfl

@[simp] theorem execute_cycle (cpu : Cpu) (host : σ) (i : Instruction) :
    (cpu.execute host i).cpu.cycle = cpu.cycle := by
  rw [execute_frame]

@[simp] theorem execute_breakpoints (cpu : Cpu) (host : σ) (i : Instruction) :
    (cpu.execute host i).cpu.breakpoints = cpu.breakpoints := by
  rw [execute_frame]

@[simp] theorem execute_paused (cpu : Cpu) (host : σ) (i : Instruction) :
    (cpu.execute host i).cpu.flags.paused = cpu.flags.paused := by
  rw [execute_frame]

theorem execute_stack (cpu : Cpu) (host : σ) {i : Instruction} (hc : i.isCall = false)
    (hr : i.isReturn = false) : (cpu.execute host i).cpu.stack = cpu.stack := by
  rw [execute_frame]
  simp only [hc, hr, Bool.or_false, Bool.false_eq_true, if_false]

theorem execute_index (cpu : Cpu) (host : σ) {i : Instruction}
    (h : i.movesIndex cpu.flags.dialect = false) : (cpu.execute host i).cpu.i = cpu.i := by
  cases i with
  | dmao x | dmai x =>
    refine passBlock_i ?_ x
    exact h
  | movI | addI | font => cases h
  | _ =>
    rw [execute_frame]
    rfl

theorem execute_memory (cpu : Cpu) (host : σ) {i : Instruction} (h : i.stored = 0) :
    (cpu.execute host i).cpu.memory = cpu.memory := by
  rw [execute_frame]
  simp only [h, if_true]

theorem execute_delay (cpu : Cpu) (host : σ) {i : Instruction} (h : i.setsDelay = false) :
    (cpu.execute host i).cpu.delay = cpu.delay := by
  rw [execute_frame]
  simp only [h, Bool.false_eq_true, if_false]

theorem execute_sound (cpu : Cpu) (host : σ) {i : Instruction} (h : i.setsSound = false) :
    (cpu.execute host i).cpu.sound = cpu.sound := by
  rw [execute_frame]
  simp only [h, Bool.false_eq_true, if_false]

theorem execute_awaitingKey (cpu : Cpu) (host : σ) {i : Instruction} (h : i.waits = false) :
    (cpu.execute host i).cpu.flags.awaitingKey = cpu.flags.awaitingKey := by
  rw [execute_frame]
  simp only [h, Bool.false_eq_true, if_false]

end Cpu

end Chip8
