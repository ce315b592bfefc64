import Chip8.Proofs.Frame

/-! Waiting for a key. Only the instruction that waits says so, and it stays where it is as long as no
key is held; so a processor that says that it waits stands at such an instruction, and until a key is
held nothing moves but its cycle counter. -/

namespace Chip8

namespace Cpu

/-- The instruction at the program counter waits for a key, and is to put it into register `x`. -/
def AtWait (cpu : Cpu) (x : Nat) : Prop := Instruction.decode ⟨cpu.fetch⟩ = some (.waitk x)

/-- A processor that says that it waits is at an instruction that waits. -/
def WaitsInPlace (cpu : Cpu) : Prop := cpu.flags.awaitingKey = true → ∃ x, cpu.AtWait x

variable {σ : Type} [Host σ]

/-- The key that is taken when some are held. -/
def leastKey (host : σ) : Nat := Keypad.trailingZeros (Host.keys host).1

theorem waitForKey_held (cpu : Cpu) {host : σ} (x : Nat) (h : (Host.keys host).1 ≠ 0) :
    cpu.waitForKey host x = .done
      { cpu.advance with
        v := cpu.v.set x (UInt8.ofNat (leastKey host)), flags.awaitingKey := false }
      (Host.keys host).2 :=
  if_neg h

theorem waitForKey_unheld (cpu : Cpu) {host : σ} (x : Nat) (h : (Host.keys host).1 = 0) :
    cpu.waitForKey host x = .done { cpu with flags.awaitingKey := true } (Host.keys host).2 := by
  simp only [waitForKey, h, if_true]

/-- Either no key is held, and the processor says that it waits; or it goes on, and waits no more. -/
theorem waitForKey_cases (cpu : Cpu) (host : σ) (x : Nat) :
    cpu.waitForKey host x = .done { cpu with flags.awaitingKey := true } (Host.keys host).2 ∨
      (cpu.waitForKey host x).cpu.flags.awaitingKey = false := by
  by_cases hk : (Host.keys host).1 = 0
  · exact .inl (waitForKey_unheld cpu x hk)
  · right
    rw [waitForKey_held cpu x hk]
    rfl

theorem WaitsInPlace.execute {cpu : Cpu} (h : cpu.WaitsInPlace) {i : Instruction}
    (hi : Instruction.decode ⟨cpu.fetch⟩ = some i) (host : σ) :
    (cpu.countCycle.execute host i).cpu.WaitsInPlace := by
  intro ha
  cases hw : i.waits with
  | true =>
    obtain ⟨x, rfl⟩ : ∃ x, i = .waitk x := by
      cases i with
      | waitk x => exact ⟨x, rfl⟩
      | _ => cases hw
    obtain he | he := waitForKey_cases cpu.countCycle host x
    · rw [Cpu.execute, he]
      exact ⟨x, hi⟩
    · cases he.symm.trans ha
  | false =>
    rw [execute_awaitingKey _ host hw] at ha
    obtain ⟨x, hx⟩ := h ha
    obtain rfl := Option.some.inj (hi.symm.trans hx)
    cases hw

theorem WaitsInPlace.tick {cpu : Cpu} (h : cpu.WaitsInPlace) (host : σ) :
    (cpu.tick host).cpu.WaitsInPlace := by
  obtain ⟨_, he⟩ | ⟨e, _, _, he⟩ | ⟨i, done, _, hi, _, rfl, ⟨_, he⟩ | ⟨_, he⟩⟩ :=
    cpu.tick_cases host
  · rw [he]
    split
    · exact h
    · exact h
  · rw [he]
    exact h
  · rw [he]
    exact h.execute hi host
  · rw [he]
    exact h.execute hi host

theorem WaitsInPlace.runFrame {cpu : Cpu} (h : cpu.WaitsInPlace) (host : σ) (n : Nat) :
    (cpu.runFrame host n).cpu.WaitsInPlace :=
  runFrame_induction (P := WaitsInPlace) (fun _ host h => h.tick host) (fun _ h => h)
    (fun _ h => h) h host n

/-! ### No key held -/

/-- A tick with no key held changes nothing but the cycle counter, and says that the processor
waits. -/
theorem AtWait.tick_unheld {cpu : Cpu} {host : σ} {x : Nat} (h : cpu.AtWait x)
    (hp : cpu.flags.paused = false) (hb : cpu.pc ∉ cpu.breakpoints)
    (hk : (Host.keys host).1 = 0) :
    cpu.tick host = ⟨{ cpu with cycle := cpu.cycle + 1, flags.awaitingKey := true },
      (Host.keys host).2, cpu.traceNext cpu.fetch, .ok ()⟩ := by
  have he : cpu.countCycle.execute host (.waitk x) =
      .done { cpu.countCycle with flags.awaitingKey := true } (Host.keys host).2 :=
    waitForKey_unheld cpu.countCycle x hk
  rw [tick_running host hp, step_of_decode host h rfl, he]
  exact checkBreakpoint_miss _ _ hb

/-- With a host that is not changed by the question. -/
theorem AtWait.tick {cpu : Cpu} {host : σ} {x : Nat} (h : cpu.AtWait x)
    (hp : cpu.flags.paused = false) (hb : cpu.pc ∉ cpu.breakpoints)
    (hk : Host.keys host = (0, host)) :
    cpu.tick host = ⟨{ cpu with cycle := cpu.cycle + 1, flags.awaitingKey := true }, host,
      cpu.traceNext cpu.fetch, .ok ()⟩ := by
  rw [h.tick_unheld hp hb (congrArg Prod.fst hk), hk]

/-- So do any number of them. -/
theorem AtWait.ticks {cpu : Cpu} {host : σ} {x : Nat} (h : cpu.AtWait x)
    (hp : cpu.flags.paused = false) (hb : cpu.pc ∉ cpu.breakpoints)
    (hk : Host.keys host = (0, host)) (n : Nat) (trace : Array String) :
    ∃ lines, Cpu.ticks n cpu host trace =
      ⟨{ cpu with
          cycle := cpu.cycle + n
          flags.awaitingKey := cpu.flags.awaitingKey || decide (0 < n) }, host, lines, .ok ()⟩ := by
  induction n generalizing cpu trace with
  | zero =>
    refine ⟨trace, ?_⟩
    simp only [Cpu.ticks, Nat.add_zero, Nat.lt_irrefl, decide_false, Bool.or_false]
  | succ n ih =>
    let waiting : Cpu := { cpu with cycle := cpu.cycle + 1, flags.awaitingKey := true }
    have hw : waiting.AtWait x := h
    obtain ⟨lines, ht⟩ := ih hw hp hb (trace ++ cpu.traceNext cpu.fetch)
    refine ⟨lines, ?_⟩
    simp only [Cpu.ticks, h.tick hp hb hk]
    rw [ht]
    simp only [waiting, Nat.add_assoc, Nat.add_comm 1, Bool.true_or, Nat.succ_pos, decide_true,
      Bool.or_true]

end Cpu

end Chip8
