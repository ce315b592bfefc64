import Chip8.Headless
import Chip8.Proofs.Drawing
import Chip8.Proofs.Fault
import Chip8.Proofs.Lockstep
import Mathlib.Control.Monad.Basic

/-! The footprint of a step: which registers, which cells of memory and which other parts of the
processor an executed instruction may change, and what it asks of its host. All that is not in the
footprint is as it was before, but for the program counter. The calls to the host are counted by a
host around the host. -/

namespace Chip8

namespace Registers

theorem get_set_of_ne (v : Registers) {r s : Nat} (h : r ≠ s) (b : UInt8) :
    (v.set r b).get s = v.get s := by
  rw [get_set, if_neg fun hr => h hr.1]

theorem get_resetFlag_of_ne (v : Registers) (d : Dialect) {r : Nat} (h : flag ≠ r) :
    (v.resetFlag d).get r = v.get r := by
  unfold resetFlag
  split
  · exact v.get_set_of_ne h 0
  · rfl

/-- Registers behind those that are loaded keep their values. -/
theorem get_load_of_le (v : Registers) {s r : Nat} {bytes : List UInt8}
    (h : s + bytes.length ≤ r) : (v.load s bytes).get r = v.get r := by
  induction bytes generalizing v s with
  | nil => rfl
  | cons b bs ih =>
    rw [List.length_cons] at h
    rw [load, ih _ (by omega), get_set_of_ne _ (by omega)]

end Registers

/-! ### The processor -/

namespace Instruction

/-- May change a register. -/
def writes : Instruction → (r : Nat) → Bool
  | .movb x _, r | .addb x _, r | .mov x _, r | .rand x _, r | .getdt x, r | .waitk x, r => r == x
  | .or x _, r | .and x _, r | .xor x _, r | .add x _, r | .sub x _, r | .shr x _, r | .bsub x _, r
  | .shl x _, r => r == x || r == Registers.flag
  | .draw .., r => r == Registers.flag
  | .dmai x, r => decide (r ≤ x)
  | _, _ => false

/-- Takes a random byte. -/
def takesByte : Instruction → Bool
  | .rand .. => true
  | _ => false

end Instruction

namespace Cpu

variable {σ : Type} [Host σ]

theorem execute_get (cpu : Cpu) (host : σ) {i : Instruction} {r : Nat} (h : i.writes r = false) :
    (cpu.execute host i).cpu.v.get r = cpu.v.get r := by
  have hne {x : Nat} (hx : (r == x) = false) : x ≠ r := by
    rintro rfl
    simp at hx
  cases i with
  | movb | addb | mov | rand | getdt => exact cpu.v.get_set_of_ne (hne h) _
  | waitk =>
    simp only [execute, waitForKey]
    split
    · rfl
    · exact cpu.v.get_set_of_ne (hne h) _
  | draw => exact cpu.v.get_set_of_ne (hne h) _
  | or x | and x | xor x =>
    obtain ⟨hx, hf⟩ := Bool.or_eq_false_iff.mp h
    exact (Registers.get_resetFlag_of_ne _ _ (hne hf)).trans (cpu.v.get_set_of_ne (hne hx) _)
  | add x | sub x | shr x | bsub x | shl x =>
    obtain ⟨hx, hf⟩ := Bool.or_eq_false_iff.mp h
    exact (Registers.get_set_of_ne _ (hne hf) _).trans (cpu.v.get_set_of_ne (hne hx) _)
  | dmai x =>
    have hx : x < r := Nat.lt_of_not_le (of_decide_eq_false h)
    simp only [execute, loadBlock, Executed.done]
    rw [passBlock_eq]
    exact cpu.v.get_load_of_le (by rw [Memory.length_readBytes]; omega)
  | dmao =>
    simp only [execute, storeBlock, Executed.done]
    rw [passBlock_eq]
    rfl
  | seb | sneb | se | sne | sek | snek =>
    simp only [execute, skipOnKey, Executed.done]
    rw [skipIf_eq]
  | ret =>
    simp only [execute, returnFrom]
    split <;> rfl
  | call =>
    simp only [execute, call]
    split <;> rfl
  | _ => rfl

/-- What an instruction writes to memory, from `I` on. -/
def bytesOf (cpu : Cpu) : Instruction → List UInt8
  | .bcd x => decimalDigits (cpu.v.get x)
  | .dmao x => cpu.v.toList.take (x + 1)
  | _ => []

theorem length_bytesOf_le (cpu : Cpu) (i : Instruction) :
    (cpu.bytesOf i).length ≤ i.stored := by
  cases i with
  | dmao => exact List.length_take_le _ _
  | _ => exact Nat.le_refl _

theorem execute_load (cpu : Cpu) (host : σ) (i : Instruction) :
    (cpu.execute host i).cpu.memory = cpu.memory.load cpu.i.toNat (cpu.bytesOf i) := by
  cases i with
  | bcd => rfl
  | dmao =>
    simp only [execute, storeBlock, Executed.done]
    rw [passBlock_eq]
    rfl
  | _ => exact execute_memory cpu host rfl

theorem execute_read (cpu : Cpu) (host : σ) {i : Instruction} {a : Nat}
    (h : ∀ k < i.stored, a % 0x1000 ≠ (cpu.i.toNat + k) % 0x1000) :
    (cpu.execute host i).cpu.memory.read a = cpu.memory.read a := by
  rw [execute_load]
  apply Memory.read_load_of_ne
  intro k hk
  exact (h k (Nat.lt_of_lt_of_le hk (cpu.length_bytesOf_le i))).symm

theorem execute_slot (cpu : Cpu) (host : σ) {i : Instruction} {d : Nat}
    (h : i.isCall = true → d ≠ cpu.stack.depth) :
    (cpu.execute host i).cpu.stack.slots[d]? = cpu.stack.slots[d]? := by
  cases i with
  | ret =>
    simp only [execute, returnFrom, CallStack.pop?]
    split
    next he =>
      split at he
      · cases he
      · obtain ⟨-, rfl⟩ := Prod.mk.inj (Option.some.inj he)
        rfl
    next => rfl
  | call a =>
    rcases Nat.lt_or_ge cpu.stack.depth CallStack.capacity with hd | hd
    · rw [execute, call_room host a hd]
      exact Vector.getElem?_setIfInBounds_ne (h rfl).symm
    · rw [execute, call_full host a hd]
  | _ => rw [execute_stack cpu host rfl rfl]

/-- What may differ between a processor and the next after an executed instruction. The program
counter may, and a pause may begin. -/
structure Footprint (i : Instruction) (cpu next : Cpu) : Prop where
  cycle : next.cycle = cpu.cycle + 1
  registers : ∀ r, i.writes r = false → next.v.get r = cpu.v.get r
  cells : ∀ a, (∀ k < i.stored, a % 0x1000 ≠ (cpu.i.toNat + k) % 0x1000) →
    next.memory.read a = cpu.memory.read a
  index : i.movesIndex cpu.flags.dialect = false → next.i = cpu.i
  depth : i.isCall = false → i.isReturn = false → next.stack.depth = cpu.stack.depth
  slots : ∀ d, (i.isCall = true → d ≠ cpu.stack.depth) →
    next.stack.slots[d]? = cpu.stack.slots[d]?
  delay : i.setsDelay = false → next.delay = cpu.delay
  sound : i.setsSound = false → next.sound = cpu.sound
  dirty : next.flags.dirty = (i.draws || cpu.flags.dirty)
  awaitingKey : i.waits = false → next.flags.awaitingKey = cpu.flags.awaitingKey
  tracing : next.flags.tracing = cpu.flags.tracing
  countPaused : next.flags.countPaused = cpu.flags.countPaused
  dialect : next.flags.dialect = cpu.flags.dialect
  breakpoints : next.breakpoints = cpu.breakpoints

theorem Footprint.setPaused {i : Instruction} {cpu next : Cpu} (h : Footprint i cpu next)
    (paused : Bool) : Footprint i cpu { next with flags.paused := paused } :=
  { h with }

theorem execute_footprint (cpu : Cpu) (host : σ) (i : Instruction) :
    Footprint i cpu (cpu.countCycle.execute host i).cpu where
  cycle := cpu.countCycle.execute_cycle host i
  registers _ h := cpu.countCycle.execute_get host h
  cells _ h := cpu.countCycle.execute_read host h
  index h := cpu.countCycle.execute_index host h
  depth hc hr := congrArg CallStack.depth (cpu.countCycle.execute_stack host hc hr)
  slots _ h := cpu.countCycle.execute_slot host h
  delay h := cpu.countCycle.execute_delay host h
  sound h := cpu.countCycle.execute_sound host h
  dirty := by rw [execute_frame]; rfl
  awaitingKey h := cpu.countCycle.execute_awaitingKey host h
  tracing := by rw [execute_frame]; rfl
  countPaused := by rw [execute_frame]; rfl
  dialect := by rw [execute_frame]; rfl
  breakpoints := cpu.countCycle.execute_breakpoints host i

end Cpu

/-! ### The host -/

/-- What a processor asks of its host. -/
inductive HostCall where
  | randomByte
  | keys
  | clear
  | blit
  | present
  deriving DecidableEq

/-- A host that keeps a list of what it was asked, newest last. -/
structure Recorded (σ : Type) where
  host : σ
  calls : List HostCall

namespace Recorded

variable {σ : Type} [Host σ]

instance : Host (Recorded σ) where
  randomByte r :=
    let (b, host) := Host.randomByte r.host
    (b, ⟨host, r.calls ++ [.randomByte]⟩)
  keys r :=
    let (keys, host) := Host.keys r.host
    (keys, ⟨host, r.calls ++ [.keys]⟩)
  clear r := ⟨Host.clear r.host, r.calls ++ [.clear]⟩
  blit r sprite x y :=
    let (hit, host) := Host.blit r.host sprite x y
    (hit, ⟨host, r.calls ++ [.blit]⟩)
  present r :=
    let (result, host) := Host.present r.host
    (result, ⟨host, r.calls ++ [.present]⟩)

/-- The list makes no difference to anything else. -/
theorem lockstep : Host.Lockstep fun (r : Recorded σ) (host : σ) => r.host = host where
  randomByte := by
    rintro r _ rfl
    exact ⟨rfl, rfl⟩
  keys := by
    rintro r _ rfl
    exact ⟨rfl, rfl⟩
  clear := by
    rintro r _ rfl
    rfl
  blit := by
    rintro r _ sprite x y rfl
    exact ⟨rfl, rfl⟩

end Recorded

namespace Cpu

variable {σ : Type} [Host σ]

/-- What an instruction asks of the host; there is no question for a key that does not exist. -/
def callsFor (cpu : Cpu) : Instruction → List HostCall
  | .cls => [.clear]
  | .rand .. => [.randomByte]
  | .draw .. => [.blit]
  | .sek x | .snek x => if (cpu.v.get x).toNat < 16 then [.keys] else []
  | .waitk _ => [.keys]
  | _ => []

theorem execute_calls (cpu : Cpu) (r : Recorded σ) (i : Instruction) :
    (cpu.execute r i).host.calls = r.calls ++ cpu.callsFor i := by
  have hnone : r.calls = r.calls ++ [] := (List.append_nil _).symm
  cases i with
  | cls | rand | draw => rfl
  | ret =>
    simp only [execute, returnFrom]
    split <;> exact hnone
  | call =>
    simp only [execute, call]
    split <;> exact hnone
  | sek x | snek x =>
    simp only [execute, skipOnKey, isKeyHeld_eq, callsFor]
    split
    · rfl
    · exact hnone
  | waitk =>
    simp only [execute, waitForKey]
    split <;> rfl
  | _ => exact hnone

theorem tick_calls {cpu : Cpu} {i : Instruction} (hp : cpu.flags.paused = false)
    (hi : Instruction.decode ⟨cpu.fetch⟩ = some i) (hf : cpu.faultOf i = none) (r : Recorded σ) :
    (cpu.tick r).host.calls = r.calls ++ cpu.countCycle.callsFor i := by
  obtain ⟨_, _, ht, _⟩ := tick_of_decode r hp hi hf
  rw [ht, ← execute_calls]

theorem callsFor_spec (cpu : Cpu) (i : Instruction) :
    (cpu.callsFor i).count .randomByte = i.takesByte.toNat ∧ .present ∉ cpu.callsFor i ∧
      (i.draws = false → .clear ∉ cpu.callsFor i ∧ .blit ∉ cpu.callsFor i) := by
  cases i with
  | sek x | snek x =>
    by_cases h : (cpu.v.get x).toNat < 16
    · simp [callsFor, h, Instruction.takesByte]
    · simp [callsFor, h, Instruction.takesByte]
  | _ => simp [callsFor, Instruction.takesByte, Instruction.draws]

/-- A tick that ends well or with a breakpoint has executed an instruction. It leaves all but the
instruction's footprint as it was, counts one cycle, and begins a pause exactly at a breakpoint. Of
the host it asks at most what the instruction needs: one byte for `rand` and none for the others, a
change of the screen for `cls` and `draw` only, and never to show it. -/
theorem tick_footprint {cpu : Cpu} (hp : cpu.flags.paused = false) (host : σ)
    (h : ∀ e, (cpu.tick host).result = .error e → e.isBreakpoint = true) :
    ∃ i, Instruction.decode cpu.wordAtPc = some i ∧ Footprint i cpu (cpu.tick host).cpu ∧
      ((cpu.tick host).cpu.flags.paused = true ↔
        ∃ addr next, (cpu.tick host).result = .error (.breakpointHit addr next)) ∧
      (i.draws = false → ∀ J, Host.Undisturbed J → J host → J (cpu.tick host).host) ∧
      let recorded := cpu.tick (⟨host, []⟩ : Recorded σ)
      recorded.cpu = (cpu.tick host).cpu ∧ recorded.host.host = (cpu.tick host).host ∧
        recorded.host.calls.count .randomByte = i.takesByte.toNat ∧
        .present ∉ recorded.host.calls ∧
        (i.draws = false → .clear ∉ recorded.host.calls ∧ .blit ∉ recorded.host.calls) := by
  obtain ⟨hp', _⟩ | ⟨e, _, hf, ht⟩ | ⟨i, done, _, hi, hf, rfl, hend⟩ := cpu.tick_cases host
  · cases hp.symm.trans hp'
  · have hb := h e (by rw [ht])
    obtain rfl | rfl | rfl := pendingFault_cases hf <;> cases hb
  · have hagree := cpu.tick_agree Recorded.lockstep (rfl : (⟨host, []⟩ : Recorded σ).host = host)
    have hcalls : (cpu.tick (⟨host, []⟩ : Recorded σ)).host.calls = cpu.countCycle.callsFor i :=
      tick_calls hp hi hf ⟨host, []⟩
    obtain ⟨hbyte, hpresent, hdraw⟩ := cpu.countCycle.callsFor_spec i
    rw [← hcalls] at hbyte hpresent hdraw
    have hfoot := cpu.execute_footprint host i
    refine ⟨i, ?_, ?_, ?_, fun hd J hJ hj => ?_, hagree.cpu, hagree.host, hbyte, hpresent, hdraw⟩
    · rwa [fetch_eq] at hi
    · obtain ⟨_, ht⟩ | ⟨_, ht⟩ := hend
      · rw [ht]
        exact hfoot
      · rw [ht]
        exact hfoot.setPaused true
    · obtain ⟨_, ht⟩ | ⟨_, ht⟩ := hend
      · have hrunning : (cpu.countCycle.execute host i).cpu.flags.paused = false :=
          (execute_paused ..).trans hp
        rw [ht]
        constructor
        · intro hpaused
          cases hrunning.symm.trans hpaused
        · rintro ⟨_, _, ⟨⟩⟩
      · rw [ht]
        simp
    · refine tick_undisturbed hJ ?_ hj
      rw [drawsNext, executed_of_decode hp hi hf]
      exact hd

/-- About to store three registers from the last cell but one on, past the end of memory. -/
def storing : Cpu :=
  let cpu := (initial.perform (Headless.seeded 0) (.load 0x200 [0xf2, 0x55])).cpu
  { cpu with i := 0xffe, flags.dialect := .uniform true }

/-- The registers stay as they are, and so does all memory but the last two cells and the first. -/
theorem tick_footprint_storing :
    let host := Headless.seeded 0
    let next := (storing.tick host).cpu
    storing.flags.paused = false ∧ (storing.tick host).result = .ok () ∧
      (∀ r, next.v.get r = storing.v.get r) ∧
      ∀ a, a % 0x1000 ∉ [0xffe, 0xfff, 0] → next.memory.read a = storing.memory.read a := by
  intro host next
  have hok : (storing.tick host).result = .ok () := by decide +kernel
  have hp : storing.flags.paused = false := rfl
  have hi : Instruction.decode storing.wordAtPc = some (.dmao 2) := by decide +kernel
  obtain ⟨i, hi', hfoot, _⟩ := tick_footprint hp host (by rw [hok]; nofun)
  obtain rfl : .dmao 2 = i := Option.some.inj (hi.symm.trans hi')
  refine ⟨hp, hok, fun r => hfoot.registers r rfl, fun a ha => hfoot.cells a ?_⟩
  have hindex : storing.i.toNat = 0xffe := rfl
  rintro k hk heq
  have hk : k < 3 := hk
  rw [heq, hindex] at ha
  obtain rfl | rfl | rfl : k = 0 ∨ k = 1 ∨ k = 2 := by omega
  all_goals exact ha (by decide)

end Cpu

end Chip8
