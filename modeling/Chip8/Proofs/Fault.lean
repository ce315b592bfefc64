import Chip8.Headless
import Chip8.Proofs.Encoding
import Chip8.Proofs.Reachable

/-! Faults. A fault is told by the word at the program counter and the depth of the stack. It changes
nothing but the cycle counter, and so it comes again at every further tick. -/

namespace Chip8

namespace Cpu

/-- The word at the program counter; the byte after the last is the first. -/
def wordAtPc (cpu : Cpu) : Opcode :=
  .ofBytes (cpu.memory.read cpu.pc.toNat) (cpu.memory.read ((cpu.pc.toNat + 1) % 0x1000))

theorem fetch_eq (cpu : Cpu) : cpu.fetch = cpu.wordAtPc.word := by
  simp [fetch, Memory.readWord, wordAtPc]

/-- The instruction to come is the one whose word is at the program counter. -/
theorem decode_fetch {cpu : Cpu} {i : Instruction} (hi : i.InRange)
    (hw : cpu.wordAtPc.word = i.encode) : Instruction.decode ⟨cpu.fetch⟩ = some i := by
  rw [fetch_eq, hw]
  exact Instruction.decode_encode hi

theorem pendingFault_eq (cpu : Cpu) :
    cpu.pendingFault = match Instruction.decode cpu.wordAtPc with
      | some i => cpu.faultOf i
      | none => some (.unimplementedInstruction cpu.pc cpu.wordAtPc.word) := by
  cases hd : Instruction.decode cpu.wordAtPc with
  | none => simp only [pendingFault, fetch_eq, hd]
  | some i => simp only [pendingFault, fetch_eq, hd]

theorem pendingFault_unimplemented {cpu : Cpu} :
    (∃ a w, cpu.pendingFault = some (.unimplementedInstruction a w)) ↔
      Instruction.decode cpu.wordAtPc = none := by
  rw [pendingFault_eq]
  cases Instruction.decode cpu.wordAtPc with
  | none => simp
  | some i => simp [faultOf_eq_some_iff]

theorem pendingFault_overflow {cpu : Cpu} :
    (∃ a, cpu.pendingFault = some (.stackOverflow a)) ↔
      (∃ a, Instruction.decode cpu.wordAtPc = some (.call a)) ∧ 16 ≤ cpu.stack.depth := by
  rw [pendingFault_eq]
  cases Instruction.decode cpu.wordAtPc with
  | none => simp
  | some i => simp [faultOf_eq_some_iff, CallStack.capacity]

theorem pendingFault_underflow {cpu : Cpu} :
    (∃ a, cpu.pendingFault = some (.stackUnderflow a)) ↔
      Instruction.decode cpu.wordAtPc = some .ret ∧ cpu.stack.depth = 0 := by
  rw [pendingFault_eq]
  cases Instruction.decode cpu.wordAtPc with
  | none => simp
  | some i => simp [faultOf_eq_some_iff]

/-- Each fault names the address of its instruction. -/
theorem pendingFault_cases {cpu : Cpu} {e : Error} (h : cpu.pendingFault = some e) :
    e = .unimplementedInstruction cpu.pc cpu.wordAtPc.word ∨ e = .stackOverflow cpu.pc ∨
      e = .stackUnderflow cpu.pc := by
  rw [pendingFault_eq] at h
  cases hd : Instruction.decode cpu.wordAtPc with
  | none =>
    rw [hd] at h
    exact .inl (Option.some.inj h).symm
  | some i =>
    rw [hd] at h
    obtain ⟨-, -, he⟩ | ⟨-, -, he⟩ := faultOf_eq_some_iff.mp h
    · exact .inr (.inr he)
    · exact .inr (.inl he)

variable {σ : Type} [Host σ]

theorem tick_error_iff {cpu : Cpu} {host : σ} {e : Error} (hp : cpu.flags.paused = false)
    (he : e.isBreakpoint = false) :
    (cpu.tick host).result = .error e ↔ cpu.pendingFault = some e := by
  obtain ⟨hp', _⟩ | ⟨e', _, hf, ht⟩ | ⟨i, done, _, hi, hf, rfl, ⟨_, ht⟩ | ⟨_, ht⟩⟩ :=
    cpu.tick_cases host
  · simp [hp] at hp'
  · simp [ht, hf]
  · have hn : cpu.pendingFault = none := by simp [pendingFault, hi, hf]
    simp [ht, hn]
  · have hn : cpu.pendingFault = none := by simp [pendingFault, hi, hf]
    rw [ht, hn]
    constructor
    · rintro ⟨⟩
      cases he
    · rintro ⟨⟩

/-- A tick fails with the fault of its instruction or with a breakpoint. -/
theorem tick_error_cases {cpu : Cpu} {host : σ} {e : Error}
    (h : (cpu.tick host).result = .error e) :
    cpu.pendingFault = some e ∨ ∃ addr word, e = .breakpointHit addr word := by
  obtain ⟨_, ht⟩ | ⟨_, _, hf, ht⟩ | ⟨i, done, _, _, _, rfl, ⟨_, ht⟩ | ⟨_, ht⟩⟩ :=
    cpu.tick_cases host
  · simp [ht] at h
  · rw [ht] at h
    exact .inl (Except.error.inj h ▸ hf)
  · simp [ht] at h
  · rw [ht] at h
    exact .inr ⟨_, _, (Except.error.inj h).symm⟩

theorem tick_of_fault {cpu : Cpu} {e : Error} (host : σ) (hp : cpu.flags.paused = false)
    (hf : cpu.pendingFault = some e) :
    cpu.tick host = ⟨{ cpu with cycle := cpu.cycle + 1 }, host, cpu.traceNext cpu.fetch, .error e⟩ :=
  (tick_running host hp).trans (step_of_fault host hf)

theorem next_iterate_of_fault {cpu : Cpu} {e : Error} (host : σ) (hp : cpu.flags.paused = false)
    (hf : cpu.pendingFault = some e) (n : Nat) :
    Machine.next^[n] ⟨cpu, host⟩ = ⟨{ cpu with cycle := cpu.cycle + n }, host⟩ := by
  induction n with
  | zero => rfl
  | succ n ih =>
    let faulty : Cpu := { cpu with cycle := cpu.cycle + n }
    have ht : faulty.tick host = _ := tick_of_fault host hp hf
    rw [Function.iterate_succ_apply', ih, Machine.next, Machine.tick, ht]
    rfl

/-- Which faults there are and when, that a fault is atomic, and that it is there for good. -/
theorem Reachable.tick_faults {cpu : Cpu} (h : Reachable cpu) (hp : cpu.flags.paused = false)
    (host : σ) :
    ((∃ a w, (cpu.tick host).result = .error (.unimplementedInstruction a w)) ↔
      Instruction.decode cpu.wordAtPc = none) ∧
    ((∃ a, (cpu.tick host).result = .error (.stackOverflow a)) ↔
      (∃ a, Instruction.decode cpu.wordAtPc = some (.call a)) ∧ cpu.stack.depth = 16) ∧
    ((∃ a, (cpu.tick host).result = .error (.stackUnderflow a)) ↔
      Instruction.decode cpu.wordAtPc = some .ret ∧ cpu.stack.depth = 0) ∧
    ∀ e, (cpu.tick host).result = .error e → e.isBreakpoint = false →
      (e = .unimplementedInstruction cpu.pc cpu.wordAtPc.word ∨ e = .stackOverflow cpu.pc ∨
        e = .stackUnderflow cpu.pc) ∧
      (cpu.tick host).cpu = { cpu with cycle := cpu.cycle + 1 } ∧ (cpu.tick host).host = host ∧
      ∀ n, (Machine.next^[n] ⟨cpu, host⟩).tick.result = .error e ∧
        (Machine.next^[n] ⟨cpu, host⟩).tick.cpu = { cpu with cycle := cpu.cycle + n + 1 } ∧
        (Machine.next^[n] ⟨cpu, host⟩).tick.host = host := by
  have hd := h.wellFormed.stack.depth_le
  refine ⟨?_, ?_, ?_, ?_⟩
  · rw [← pendingFault_unimplemented]
    exact exists₂_congr fun a w => tick_error_iff hp rfl
  · have hfull : cpu.stack.depth = 16 ↔ 16 ≤ cpu.stack.depth := by omega
    rw [hfull, ← pendingFault_overflow]
    exact exists_congr fun a => tick_error_iff hp rfl
  · rw [← pendingFault_underflow]
    exact exists_congr fun a => tick_error_iff hp rfl
  · intro e he hb
    have hf := (tick_error_iff hp hb).mp he
    refine ⟨pendingFault_cases hf, ?_, ?_, ?_⟩
    · rw [tick_of_fault host hp hf]
    · rw [tick_of_fault host hp hf]
    · intro n
      let faulty : Cpu := { cpu with cycle := cpu.cycle + n }
      have ht : faulty.tick host = _ := tick_of_fault host hp hf
      rw [next_iterate_of_fault host hp hf, Machine.tick, ht]
      exact ⟨rfl, rfl, rfl⟩

/-- A return to nowhere stops the machine for good. -/
theorem tick_faults_return :
    let host := Headless.seeded 0
    let cpu := (initial.perform host (.writeWord 0x200 0x00ee)).cpu
    (∃ a, (cpu.tick host).result = .error (.stackUnderflow a)) ∧
      ∀ n, (Machine.next^[n] ⟨cpu, host⟩).tick.result = (cpu.tick host).result := by
  intro host cpu
  have hr : Reachable cpu := .perform host _ .initial
  obtain ⟨_, _, hunder, hfault⟩ := Reachable.tick_faults hr rfl host
  obtain ⟨a, ha⟩ := hunder.mpr ⟨by decide +kernel, rfl⟩
  obtain ⟨_, _, _, hagain⟩ := hfault _ ha rfl
  refine ⟨⟨a, ha⟩, fun n => ?_⟩
  rw [ha]
  exact (hagain n).1

end Cpu

end Chip8
