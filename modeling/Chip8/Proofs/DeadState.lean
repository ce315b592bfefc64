import Chip8.Proofs.Calls
import Chip8.Proofs.SideBySide
import Chip8.Proofs.Usage

/-! Dead state. The sound timer, the cycle counter and the free slots of the stack decide nothing: two
processors that agree on all else do the same with a host for ever. What is free moves with the calls
and returns, as a call overwrites the first free slot and a return frees the last one in use. -/

namespace Chip8

/-- The same addresses in use. -/
structure CallStack.EqInUse (s t : CallStack) : Prop where
  depth_eq : s.depth = t.depth
  toList_eq : s.toList = t.toList

namespace CallStack

theorem getElem?_toList (s : CallStack) {k : Nat} (hk : k < s.depth) :
    s.toList[k]? = s.slots[k]? := by
  rw [toList, List.getElem?_take_of_lt hk]
  simp [Vector.toList]

theorem take_toList (s : CallStack) {d : Nat} (hd : d ≤ s.depth) :
    s.toList.take d = (CallStack.mk s.slots d).toList := by
  rw [toList, toList, List.take_take, Nat.min_eq_left hd]

namespace EqInUse

variable {s t : CallStack}

/-- The newest address is the same, and so are those below it. -/
theorem pop (h : s.EqInUse t) {d : Nat} (hd : s.depth = d + 1) :
    s.slots[d]?.getD 0 = t.slots[d]?.getD 0 ∧ EqInUse ⟨s.slots, d⟩ ⟨t.slots, d⟩ := by
  have hs : d < s.depth := by omega
  have ht : d < t.depth := by rwa [← h.depth_eq]
  constructor
  · rw [← s.getElem?_toList hs, ← t.getElem?_toList ht, h.toList_eq]
  · refine ⟨rfl, ?_⟩
    rw [← s.take_toList (Nat.le_of_lt hs), ← t.take_toList (Nat.le_of_lt ht), h.toList_eq]

/-- Whatever was in the first free slots, a call writes the same to both. -/
theorem push (h : s.EqInUse t) (hs : s.depth < capacity) (a : UInt16) :
    EqInUse ⟨s.slots.setIfInBounds s.depth a, s.depth + 1⟩
      ⟨t.slots.setIfInBounds t.depth a, t.depth + 1⟩ := by
  refine ⟨congrArg (· + 1) h.depth_eq, ?_⟩
  rw [toList_push hs, toList_push (h.depth_eq ▸ hs), h.toList_eq]

end EqInUse

end CallStack

namespace Cpu

/-- All but the dead state is equal. -/
structure EqLive (a b : Cpu) : Prop where
  flags : a.flags = b.flags
  memory : a.memory = b.memory
  stack : a.stack.EqInUse b.stack
  pc : a.pc = b.pc
  i : a.i = b.i
  v : a.v = b.v
  delay : a.delay = b.delay
  breakpoints : a.breakpoints = b.breakpoints

namespace EqLive

variable {a b : Cpu}

theorem of_stack {stack : CallStack} {sound : UInt8} {cycle : Nat} (hs : a.stack.EqInUse stack) :
    a.EqLive { a with stack, sound, cycle } :=
  ⟨rfl, rfl, hs, rfl, rfl, rfl, rfl, rfl⟩

theorem eq_with (h : a.EqLive b) :
    ∃ stack sound cycle, a.stack.EqInUse stack ∧ b = { a with stack, sound, cycle } := by
  refine ⟨b.stack, b.sound, b.cycle, h.stack, ?_⟩
  rw [h.flags, h.memory, h.pc, h.i, h.v, h.delay, h.breakpoints]

theorem skipIf (h : a.EqLive b) (c : Bool) : (a.skipIf c).EqLive (b.skipIf c) := by
  obtain ⟨stack, sound, cycle, hs, rfl⟩ := h.eq_with
  cases c with
  | true => exact of_stack hs
  | false => exact of_stack hs

theorem passBlock (h : a.EqLive b) (x : Nat) : (a.passBlock x).EqLive (b.passBlock x) := by
  obtain ⟨stack, sound, cycle, hs, rfl⟩ := h.eq_with
  unfold Cpu.passBlock
  by_cases hp : a.flags.dialect.passBlocks = true
  · rw [if_pos hp, if_pos hp]
    exact of_stack hs
  · rw [if_neg hp, if_neg hp]
    exact of_stack hs

variable {σ : Type}

theorem returnFrom (h : a.EqLive b) (host : σ) :
    (a.returnFrom host).Related EqLive Eq (b.returnFrom host) := by
  cases hd : a.stack.depth with
  | zero =>
    rw [returnFrom_empty host hd, returnFrom_empty host (h.stack.depth_eq.symm.trans hd), h.pc]
    exact ⟨h, rfl, rfl⟩
  | succ d =>
    obtain ⟨ha, hs⟩ := h.stack.pop hd
    rw [returnFrom_succ host hd, returnFrom_succ host (h.stack.depth_eq.symm.trans hd)]
    exact ⟨⟨h.flags, h.memory, hs, ha, h.i, h.v, h.delay, h.breakpoints⟩, rfl, rfl⟩

theorem call (h : a.EqLive b) (host : σ) (target : UInt16) :
    (a.call host target).Related EqLive Eq (b.call host target) := by
  rcases Nat.lt_or_ge a.stack.depth CallStack.capacity with hd | hd
  · have hs := h.stack.push hd (following a.pc)
    rw [call_room host target hd, call_room host target (h.stack.depth_eq ▸ hd), ← h.pc]
    exact ⟨⟨h.flags, h.memory, hs, rfl, h.i, h.v, h.delay, h.breakpoints⟩, rfl, rfl⟩
  · rw [call_full host target hd, call_full host target (h.stack.depth_eq ▸ hd), h.pc]
    exact ⟨h, rfl, rfl⟩

variable [Host σ]

theorem skipOnKey (h : a.EqLive b) (host : σ) (x : Nat) (held : Bool) :
    (a.skipOnKey host x held).Related EqLive Eq (b.skipOnKey host x held) := by
  simp only [Cpu.skipOnKey, h.v]
  exact ⟨h.skipIf _, rfl, rfl⟩

/-- No instruction lets dead state into the rest. -/
theorem execute (h : a.EqLive b) (host : σ) (i : Instruction) :
    (a.execute host i).Related EqLive Eq (b.execute host i) := by
  cases i with
  | ret => exact h.returnFrom host
  | call target => exact h.call host target
  | sek x => exact h.skipOnKey host x true
  | snek x => exact h.skipOnKey host x false
  | seb | sneb | se | sne =>
    simp only [Cpu.execute, h.v]
    exact ⟨h.skipIf _, rfl, rfl⟩
  | waitk x =>
    obtain ⟨stack, sound, cycle, hs, rfl⟩ := h.eq_with
    simp only [Cpu.execute, waitForKey]
    split
    · exact ⟨of_stack hs, rfl, rfl⟩
    · exact ⟨of_stack hs, rfl, rfl⟩
  | dmao x =>
    obtain ⟨stack, sound, cycle, hs, rfl⟩ := h.eq_with
    let block := a.v.toList.take (x + 1)
    let stored : Cpu := { a.advance with memory := a.memory.load a.i.toNat block }
    have hstored : stored.EqLive { stored with stack, sound, cycle } := of_stack hs
    exact ⟨hstored.passBlock x, rfl, rfl⟩
  | dmai x =>
    obtain ⟨stack, sound, cycle, hs, rfl⟩ := h.eq_with
    let block := a.memory.readBytes a.i.toNat (x + 1)
    let loaded : Cpu := { a.advance with v := a.v.load 0 block }
    have hloaded : loaded.EqLive { loaded with stack, sound, cycle } := of_stack hs
    exact ⟨hloaded.passBlock x, rfl, rfl⟩
  | _ =>
    -- also `movst`, which writes to the sound timer, but from a live register
    obtain ⟨stack, sound, cycle, hs, rfl⟩ := h.eq_with
    exact ⟨of_stack hs, rfl, rfl⟩

end EqLive

/-- Any lines are as good as others. -/
def AnyTrace (_ _ : Array String) : Prop := True

variable {σ : Type} [Host σ]

theorem eqLive_simulation : Simulation EqLive (Eq : σ → σ → Prop) AnyTrace where
  paused h := congrArg Flags.paused h.flags
  countPaused h := congrArg Flags.countPaused h.flags
  dirty h := congrArg Flags.dirty h.flags
  pc h := h.pc
  memory h := h.memory
  breakpoints h := h.breakpoints
  countCycle h := by
    obtain ⟨stack, sound, cycle, hs, rfl⟩ := h.eq_with
    exact .of_stack hs
  setPaused _ h := by
    obtain ⟨stack, sound, cycle, hs, rfl⟩ := h.eq_with
    exact .of_stack hs
  shown h := by
    obtain ⟨stack, sound, cycle, hs, rfl⟩ := h.eq_with
    exact .of_stack hs
  runTimers h := by
    obtain ⟨stack, sound, cycle, hs, rfl⟩ := h.eq_with
    exact .of_stack hs
  execute i h hr := hr ▸ h.execute _ i
  present hr := hr ▸ ⟨rfl, rfl⟩
  silent := trivial
  traceNext _ _ := trivial
  append _ _ := trivial

/-- No operation of the owner does, either. -/
theorem EqLive.perform {a b : Cpu} (h : a.EqLive b) (host : σ) (op : Operation) :
    (a.perform host op).Related EqLive Eq AnyTrace (b.perform host op) := by
  cases op with
  | tick => exact eqLive_simulation.tick h rfl
  | stepOnce => exact eqLive_simulation.stepOnce h rfl
  | frame n => exact eqLive_simulation.runFrame h rfl n
  | setRegister r byte =>
    obtain ⟨stack, sound, cycle, hs, rfl⟩ := h.eq_with
    simp only [Cpu.perform, setRegister]
    split
    · exact ⟨of_stack hs, rfl, trivial, rfl⟩
    · exact ⟨h, rfl, trivial, rfl⟩
  | addBreakpoint addr =>
    obtain ⟨stack, sound, cycle, hs, rfl⟩ := h.eq_with
    simp only [Cpu.perform, addBreakpoint]
    split
    · exact ⟨h, rfl, trivial, rfl⟩
    · exact ⟨of_stack hs, rfl, trivial, rfl⟩
  | reset =>
    obtain ⟨stack, sound, cycle, hs, rfl⟩ := h.eq_with
    exact ⟨of_stack ⟨rfl, rfl⟩, rfl, trivial, rfl⟩
  | _ =>
    obtain ⟨stack, sound, cycle, hs, rfl⟩ := h.eq_with
    exact ⟨of_stack hs, rfl, trivial, rfl⟩

end Cpu

namespace Machine

variable {σ : Type} [Host σ]

theorem use_eqLive {m n : Machine σ} (h : m.cpu.EqLive n.cpu) (hh : m.host = n.host) (u : Use σ) :
    (m.use u).Related Cpu.EqLive Eq Cpu.AnyTrace (n.use u) := by
  obtain ⟨a, host⟩ := m
  obtain ⟨b, _⟩ := n
  obtain rfl : host = _ := hh
  cases u with
  | operation op => exact h.perform host op
  | change f => exact ⟨h, rfl, trivial, rfl⟩

theorem used_eqLive {m n : Machine σ} (h : m.cpu.EqLive n.cpu) (hh : m.host = n.host)
    (uses : Nat → Use σ) (t : Nat) :
    (m.used uses t).cpu.EqLive (n.used uses t).cpu ∧ (m.used uses t).host = (n.used uses t).host := by
  induction t with
  | zero => exact ⟨h, hh⟩
  | succ t ih =>
    have hu := use_eqLive ih.1 ih.2 (uses t)
    exact ⟨hu.cpu, hu.host⟩

/-- Two processors that differ in dead state at most, used alike on the same host, always answer alike,
and stay alike on hosts that stay the same. -/
theorem dead_state_unseen {a b : Cpu} (hab : a.EqLive b) (host : σ) (uses : Nat → Use σ) (t : Nat) :
    let m := used ⟨a, host⟩ uses t
    let n := used ⟨b, host⟩ uses t
    m.cpu.EqLive n.cpu ∧ m.host = n.host ∧ (m.use (uses t)).result = (n.use (uses t)).result := by
  intro m n
  obtain ⟨hcpu, hhost⟩ := used_eqLive (m := ⟨a, host⟩) (n := ⟨b, host⟩) hab rfl uses t
  exact ⟨hcpu, hhost, (use_eqLive hcpu hhost (uses t)).result⟩

/-- A program that calls a subroutine, which returns at once, and then jumps in place. -/
def returning : Cpu :=
  (Cpu.initial.perform (Headless.seeded 0)
    (.load 0x200 [0x22, 0x04, 0x12, 0x02, 0x00, 0xee])).cpu

/-- After the return the program is started again. It is not what it was at first, as a free slot and
the counter tell, and yet it does the same. -/
theorem dead_state_unseen_returned :
    let host := Headless.seeded 0
    let again := (((returning.tick host).cpu.tick host).cpu.perform host .restart).cpu
    let uses : Nat → Use Headless := fun _ => .operation .tick
    returning.stack ≠ again.stack ∧ returning.cycle ≠ again.cycle ∧ returning.EqLive again ∧
      ∀ t, ((used ⟨returning, host⟩ uses t).use (uses t)).result =
        ((used ⟨again, host⟩ uses t).use (uses t)).result := by
  intro host again uses
  let slots := CallStack.empty.slots.set 0 0x202
  let called : Cpu := { returning with stack := ⟨slots, 1⟩, pc := 0x204, cycle := 1 }
  let returned : Cpu := { returning with stack := ⟨slots, 0⟩, pc := 0x202, cycle := 2 }
  have hcall : returning.tick host = ⟨called, host, #[], .ok ()⟩ := by
    have hi : Instruction.decode ⟨returning.fetch⟩ = some (.call 0x204) := by decide +kernel
    rw [Cpu.tick_running host rfl, Cpu.step_of_decode host hi rfl]
    exact Cpu.checkBreakpoint_miss host #[] List.not_mem_nil
  have hret : called.tick host = ⟨returned, host, #[], .ok ()⟩ := by
    have hi : Instruction.decode ⟨called.fetch⟩ = some .ret := by decide +kernel
    rw [Cpu.tick_running host rfl, Cpu.step_of_decode host hi rfl]
    exact Cpu.checkBreakpoint_miss host #[] List.not_mem_nil
  have hagain : again = { returning with stack := ⟨slots, 0⟩, cycle := 2 } := by
    simp only [again, hcall, hret]
    rfl
  have hab : returning.EqLive again := by
    rw [hagain]
    exact .of_stack ⟨rfl, rfl⟩
  refine ⟨?_, ?_, hab, fun t => (dead_state_unseen hab host uses t).2.2⟩
  · rw [hagain]
    decide +kernel
  · rw [hagain]
    decide +kernel

end Machine

end Chip8
