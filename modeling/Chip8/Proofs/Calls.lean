import Chip8.Proofs.Fault

/-! Calls and returns match. Short of a reset, an executed call puts the address behind it on the
stack, an executed return takes the newest address off and goes there, and nothing else touches the
stack. So the return that brings the stack back to the depth of a call finds the address that this
call has left, whatever was called, overwritten or refused in between. -/

namespace Chip8

namespace CallStack

variable {s : CallStack}

theorem length_toList (h : s.depth ≤ 16) : s.toList.length = s.depth := by
  simp [toList, h]

theorem toList_push (h : s.depth < capacity) (a : UInt16) :
    (CallStack.mk (s.slots.setIfInBounds s.depth a) (s.depth + 1)).toList = s.toList ++ [a] := by
  have hd : s.depth < s.slots.toList.length := by simpa [capacity] using h
  have hset : (s.slots.setIfInBounds s.depth a).toList = s.slots.toList.set s.depth a := by
    simp [Vector.toList]
  simp only [toList, hset]
  rw [List.take_add_one, List.take_set_of_le (Nat.le_refl _), List.getElem?_set_self hd]
  rfl

theorem toList_pop {d : Nat} (hd : s.depth = d + 1) (h : s.depth ≤ 16) :
    s.toList = (CallStack.mk s.slots d).toList ++ [s.slots[d]?.getD 0] := by
  have hlt : d < 16 := by omega
  have hget : s.slots.toList[d]? = s.slots[d]? := by simp [Vector.toList]
  simp only [toList, hd]
  rw [List.take_add_one, hget, Vector.getElem?_eq_getElem hlt]
  rfl

end CallStack

namespace Cpu

variable {σ : Type} [Host σ]

/-- What an executed instruction does to the addresses in use, from one state to the next. -/
inductive Stacked (cpu next : Cpu) : Option Instruction → Prop
  | call (a : UInt16) : next.stack.toList = cpu.stack.toList ++ [following cpu.pc] →
      Stacked cpu next (some (.call a))
  | ret : cpu.stack.toList = next.stack.toList ++ [next.pc] → Stacked cpu next (some .ret)
  | other {i : Option Instruction} : i.any Instruction.isCall = false →
      i.any Instruction.isReturn = false → next.stack = cpu.stack → Stacked cpu next i

theorem execute_stacked {cpu : Cpu} (h : cpu.stack.WellFormed) (host : σ) {i : Instruction}
    (hf : cpu.faultOf i = none) : Stacked cpu (cpu.execute host i).cpu (some i) := by
  cases hc : i.isCall with
  | true =>
    obtain ⟨a, rfl⟩ : ∃ a, i = .call a := by
      cases i with
      | call a => exact ⟨a, rfl⟩
      | _ => cases hc
    have hd : cpu.stack.depth < CallStack.capacity := by
      simpa [faultOf] using hf
    rw [execute, call_room host a hd]
    exact .call a (CallStack.toList_push hd _)
  | false =>
    cases hr : i.isReturn with
    | true =>
      obtain rfl : i = .ret := by
        cases i with
        | ret => rfl
        | _ => cases hr
      have hd : cpu.stack.depth ≠ 0 := by
        simpa [faultOf] using hf
      obtain ⟨d, hd⟩ := Nat.exists_eq_succ_of_ne_zero hd
      rw [execute, returnFrom_succ host hd]
      exact .ret (CallStack.toList_pop hd h.depth_le)
    | false => exact .other hc hr (execute_stack cpu host hc hr)

theorem tick_stacked {cpu : Cpu} (h : cpu.stack.WellFormed) (host : σ) :
    Stacked cpu (cpu.tick host).cpu cpu.executed := by
  obtain ⟨hp, he⟩ | ⟨e, _, hf, he⟩ | ⟨i, done, hp, hi, hf, rfl, ⟨_, he⟩ | ⟨_, he⟩⟩ :=
    cpu.tick_cases host
  · rw [he, executed_of_paused hp]
    refine .other rfl rfl ?_
    cases cpu.flags.countPaused <;> rfl
  · rw [he, executed_of_fault hf]
    exact .other rfl rfl rfl
  all_goals
    have hc : cpu.countCycle.stack.WellFormed := h
    have hs := execute_stacked hc host (show cpu.countCycle.faultOf i = none from hf)
    rw [he, executed_of_decode hp hi hf]
    cases hs with
    | call a ht => exact .call a ht
    | ret ht => exact .ret ht
    | other hc hr ht => exact .other hc hr ht

end Cpu

/-! ### Histories -/

/-- All but a reset, in single ticks: a frame or a single step is ticks with changes of the owner
around them. -/
def Operation.single : Operation → Bool
  | .stepOnce | .frame _ | .reset => false
  | _ => true

/-- A processor in use: at each time its owner lets it tick or changes something, on the host as it
is then. -/
structure History (σ : Type) where
  start : Cpu
  reachable : Cpu.Reachable start
  host : Nat → σ
  op : Nat → Operation
  single : ∀ t, (op t).single = true

namespace History

variable {σ : Type} [Host σ]

/-- The processor before the operation of a time. -/
def cpu (h : History σ) : Nat → Cpu
  | 0 => h.start
  | t + 1 => ((h.cpu t).perform (h.host t) (h.op t)).cpu

/-- The instruction that is executed at a time, if there is one. -/
def executed (h : History σ) (t : Nat) : Option Instruction :=
  match h.op t with
  | .tick => (h.cpu t).executed
  | _ => none

/-- How many of the instructions executed before a time are of a kind. -/
def count (h : History σ) (kind : Instruction → Bool) (t : Nat) : Nat :=
  (List.range t).countP fun s => (h.executed s).any kind

/-- The addresses on the stack, oldest first. -/
def stack (h : History σ) (t : Nat) : List UInt16 := (h.cpu t).stack.toList

def depth (h : History σ) (t : Nat) : Nat := (h.cpu t).stack.depth

/-- At this time a return brings the stack back to a depth. -/
def ReturnsTo (h : History σ) (d t : Nat) : Prop :=
  h.executed t = some .ret ∧ h.depth (t + 1) = d

variable (h : History σ)

theorem reachable_cpu (t : Nat) : Cpu.Reachable (h.cpu t) := by
  induction t with
  | zero => exact h.reachable
  | succ t ih => exact .perform (h.host t) (h.op t) ih

theorem length_stack (t : Nat) : (h.stack t).length = h.depth t :=
  CallStack.length_toList (h.reachable_cpu t).wellFormed.stack.depth_le

theorem count_succ (kind : Instruction → Bool) (t : Nat) :
    h.count kind (t + 1) = h.count kind t + ((h.executed t).any kind).toNat := by
  rw [count, count, List.range_succ, List.countP_append, List.countP_singleton]
  cases (h.executed t).any kind <;> rfl

/-- Every operation treats the stack as the instruction that it executes does. -/
theorem stacked (t : Nat) : Cpu.Stacked (h.cpu t) (h.cpu (t + 1)) (h.executed t) := by
  have hs := h.single t
  have hw := (h.reachable_cpu t).wellFormed
  rw [cpu, executed]
  cases hop : h.op t with
  | tick => exact Cpu.tick_stacked hw.stack (h.host t)
  | stepOnce | frame | reset =>
    rw [hop] at hs
    cases hs
  | setRegister r b =>
    refine .other rfl rfl ?_
    obtain ⟨v, he⟩ := (h.cpu t).setRegister_eq r b
    rw [Cpu.perform, Run.ofChange, he]
  | addBreakpoint a =>
    refine .other rfl rfl ?_
    obtain ⟨breakpoints, hb⟩ := (h.cpu t).addBreakpoint_eq a
    rw [Cpu.perform, Run.ofChange, hb]
  | _ => exact .other rfl rfl rfl

/-- Together with the returns so far the stack is as deep as there were calls. -/
theorem depth_add_count (t : Nat) :
    h.depth t + h.count Instruction.isReturn t = h.depth 0 + h.count Instruction.isCall t := by
  induction t with
  | zero => rfl
  | succ t ih =>
    have hstep : h.depth (t + 1) + ((h.executed t).any Instruction.isReturn).toNat =
        h.depth t + ((h.executed t).any Instruction.isCall).toNat := by
      rw [← h.length_stack t, ← h.length_stack (t + 1)]
      have hs := h.stacked t
      generalize h.executed t = i at hs ⊢
      cases hs with
      | call a ht =>
        rw [stack, ht, List.length_append]
        rfl
      | ret ht =>
        rw [stack, stack, ht, List.length_append]
        rfl
      | other hc hr ht =>
        rw [hc, hr, stack, stack, ht]
    rw [count_succ, count_succ]
    omega

/-- As long as no return comes back to the depth of a call, what the call has left stays on the
stack; and a return that does comes back to the call. -/
theorem prefix_step {below : List UInt16} {a : UInt16} {u : Nat}
    (hp : below ++ [a] <+: h.stack u) :
    (¬h.ReturnsTo below.length u → below ++ [a] <+: h.stack (u + 1)) ∧
      (h.ReturnsTo below.length u → h.stack (u + 1) = below ∧ (h.cpu (u + 1)).pc = a) := by
  have hs := h.stacked u
  have hlen := h.length_stack (u + 1)
  unfold ReturnsTo
  generalize h.executed u = i at hs ⊢
  cases hs with
  | call b ht =>
    refine ⟨fun _ => ?_, fun hr => ?_⟩
    · have hn : h.stack (u + 1) = h.stack u ++ [_] := ht
      rw [hn]
      exact hp.trans (List.prefix_append _ _)
    · cases hr.1
  | ret ht =>
    have hn : h.stack u = h.stack (u + 1) ++ [_] := ht
    rw [hn, List.prefix_concat_iff] at hp
    rcases hp with heq | hlonger
    · obtain ⟨hb, ha⟩ := List.append_inj' heq rfl
      have hd : h.depth (u + 1) = below.length := by rw [← hlen, ← hb]
      exact ⟨fun hr => absurd ⟨rfl, hd⟩ hr, fun _ => ⟨hb.symm, (List.singleton_inj.mp ha).symm⟩⟩
    · have hl := hlonger.length_le
      rw [List.length_append, List.length_singleton] at hl
      refine ⟨fun _ => hlonger, fun hr => ?_⟩
      have := hr.2
      omega
  | other hc hr ht =>
    refine ⟨fun _ => ?_, fun hret => ?_⟩
    · rw [stack, ht]
      exact hp
    · rw [hret.1] at hr
      cases hr

/-- After a call the stack goes on to hold what it held, with the address behind the call on top of
it, until a return comes back to the depth of the call. -/
theorem prefix_of_call {t : Nat} {a : UInt16} (hcall : h.executed t = some (.call a)) {u : Nat}
    (hu : t < u) (hopen : ∀ r, t < r → r < u → ¬h.ReturnsTo (h.depth t) r) :
    h.stack t ++ [Cpu.following (h.cpu t).pc] <+: h.stack u := by
  induction u with
  | zero => omega
  | succ u ih =>
    rcases Nat.lt_succ_iff_lt_or_eq.mp hu with hlt | rfl
    · have hp := ih hlt fun r htr hru => hopen r htr (by omega)
      refine (h.prefix_step hp).1 ?_
      rw [h.length_stack]
      exact hopen u hlt (by omega)
    · have hs := h.stacked t
      rw [hcall] at hs
      cases hs with
      | call _ ht => exact ⟨[], (List.append_nil _).trans ht.symm⟩
      | other hc => cases hc

/-- An operation that is refused, or faults, executes nothing and leaves the stack alone. -/
theorem stack_of_fault {t : Nat} {e : Error}
    (he : ((h.cpu t).perform (h.host t) (h.op t)).result = .error e) (hb : e.isBreakpoint = false) :
    h.executed t = none ∧ (h.cpu (t + 1)).stack = (h.cpu t).stack := by
  have hnone : h.executed t = none := by
    unfold executed
    split
    case h_1 hop =>
      rw [hop] at he
      cases hp : (h.cpu t).flags.paused with
      | true => exact Cpu.executed_of_paused hp
      | false => exact Cpu.executed_of_fault ((Cpu.tick_error_iff hp hb).mp he)
    case h_2 => rfl
  refine ⟨hnone, ?_⟩
  have hs := h.stacked t
  rw [hnone] at hs
  cases hs with
  | other _ _ ht => exact ht

/-- Calls and returns match. Until a return comes back to the depth of a call, the stack is deeper
than at the call and still holds below what it held then; that return leaves the rest as it was and
goes to the address behind the call. A processor that was fresh is as deep in calls as it has made
more calls than returns, and a fault is neither and leaves the stack alone. -/
theorem calls_match :
    (∀ t a, h.executed t = some (.call a) → ∀ u, t < u →
      (∀ r, t < r → r < u → ¬h.ReturnsTo (h.depth t) r) →
        h.depth t < h.depth u ∧ (h.stack u).take (h.depth t) = h.stack t ∧
        (h.ReturnsTo (h.depth t) u →
          h.stack (u + 1) = h.stack t ∧ (h.cpu (u + 1)).pc = ((h.cpu t).pc + 2) % 0x1000)) ∧
    ((h.start = .initial ∨ ∃ program breakpoints flags,
        Cpu.ofProgram program breakpoints flags = .ok h.start) →
      ∀ t, h.depth t + h.count Instruction.isReturn t = h.count Instruction.isCall t) ∧
    ∀ t e, ((h.cpu t).perform (h.host t) (h.op t)).result = .error e → e.isBreakpoint = false →
      h.executed t = none ∧ (h.cpu (t + 1)).stack = (h.cpu t).stack := by
  refine ⟨fun t a hcall u hu hopen => ?_, fun hfresh t => ?_, fun t e => h.stack_of_fault⟩
  · have hp := h.prefix_of_call hcall hu hopen
    have hlen := hp.length_le
    rw [List.length_append, List.length_singleton, length_stack, length_stack] at hlen
    refine ⟨by omega, ?_, ?_⟩
    · rw [← h.length_stack t]
      exact (List.prefix_iff_eq_take.mp ((List.prefix_append _ _).trans hp)).symm
    · have hstep := (h.prefix_step hp).2
      rwa [h.length_stack t] at hstep
  · have hzero : h.depth 0 = 0 := by
      show h.start.stack.depth = 0
      rcases hfresh with hi | ⟨program, breakpoints, flags, hi⟩
      · rw [hi]
        rfl
      · obtain ⟨memory, hm⟩ := Cpu.ofProgram_ok hi
        rw [hm]
        rfl
    rw [h.depth_add_count, hzero, Nat.zero_add]

/-- A program that calls a subroutine that calls another, and after both returns returns once more. -/
def nested : History Headless where
  start := .initial
  reachable := .initial
  host _ := Headless.seeded 0
  op
    | 0 => .load 0x200 [0x22, 0x04, 0x00, 0xee, 0x22, 0x08, 0x00, 0xee, 0x00, 0xee]
    | _ => .tick
  single t := by cases t <;> rfl

/-- The second of three returns is that of the first call, and the third is refused. -/
theorem calls_match_nested :
    nested.executed 1 = some (.call 0x204) ∧ nested.ReturnsTo (nested.depth 1) 4 ∧
      nested.stack 5 = [] ∧ (nested.cpu 5).pc = 0x202 ∧
      nested.depth 3 + nested.count Instruction.isReturn 3 = nested.count Instruction.isCall 3 ∧
      nested.executed 5 = none := by
  obtain ⟨hmatch, hcount, hfault⟩ := calls_match nested
  obtain ⟨hcall, hret, hbottom, hbefore⟩ : nested.executed 1 = some (.call 0x204) ∧
      nested.executed 4 = some .ret ∧ nested.stack 1 = [] ∧ (nested.cpu 1).pc = 0x200 := by
    decide +kernel
  obtain ⟨hfirst, hthird, hfourth, hfifth⟩ : nested.depth 1 = 0 ∧ nested.depth 3 = 2 ∧
      nested.depth 4 = 1 ∧ nested.depth 5 = 0 := by
    decide +kernel
  have hopen : ∀ r, 1 < r → r < 4 → ¬nested.ReturnsTo (nested.depth 1) r := by
    rintro r hlow hhigh ⟨_, hd⟩
    rw [hfirst] at hd
    obtain rfl | rfl : r = 2 ∨ r = 3 := by omega
    · cases hd.symm.trans hthird
    · cases hd.symm.trans hfourth
  have hreturns : nested.ReturnsTo (nested.depth 1) 4 := ⟨hret, hfifth.trans hfirst.symm⟩
  obtain ⟨_, _, hback⟩ := hmatch 1 0x204 hcall 4 (by omega) hopen
  obtain ⟨hstack, hpc⟩ := hback hreturns
  refine ⟨hcall, hreturns, hstack.trans hbottom, ?_, hcount (.inl rfl) 3, ?_⟩
  · rw [hpc, hbefore]
    rfl
  · obtain ⟨hp, hf⟩ : (nested.cpu 5).flags.paused = false ∧
        (nested.cpu 5).pendingFault = some (.stackUnderflow 0x202) := by
      decide +kernel
    exact (hfault 5 _ ((Cpu.tick_error_iff hp rfl).mpr hf) rfl).1

end History

end Chip8
