import Chip8.Proofs.SideBySide

/-! Two hosts in lockstep. They answer alike and stay related, and so the same processor does the
same on both, for an instruction, a tick, and a run of them. Frames and single steps need the hosts
to agree on showing the screen too. -/

namespace Chip8

variable {σ τ : Type} [Host σ] [Host τ]

/-- Two hosts answer alike to all that an instruction may ask, and stay related. -/
structure Host.Lockstep (R : σ → τ → Prop) : Prop where
  randomByte {s : σ} {t : τ} : R s t → (Host.randomByte s).1 = (Host.randomByte t).1 ∧
    R (Host.randomByte s).2 (Host.randomByte t).2
  keys {s : σ} {t : τ} : R s t → (Host.keys s).1 = (Host.keys t).1 ∧
    R (Host.keys s).2 (Host.keys t).2
  clear {s : σ} {t : τ} : R s t → R (Host.clear s) (Host.clear t)
  blit {s : σ} {t : τ} (sprite : List UInt8) (x y : UInt8) : R s t →
    (Host.blit s sprite x y).1 = (Host.blit t sprite x y).1 ∧
      R (Host.blit s sprite x y).2 (Host.blit t sprite x y).2

/-- Also showing the screen comes to the same on both. -/
structure Host.Simulation (R : σ → τ → Prop) : Prop extends Host.Lockstep R where
  present {s : σ} {t : τ} : R s t → (Host.present s).1 = (Host.present t).1 ∧
    R (Host.present s).2 (Host.present t).2

omit [Host σ] [Host τ] in
structure Executed.Agree (R : σ → τ → Prop) (a : Executed σ) (b : Executed τ) : Prop where
  cpu : a.cpu = b.cpu
  host : R a.host b.host
  fault : a.fault = b.fault

omit [Host σ] [Host τ] in
structure Run.Agree (R : σ → τ → Prop) (a : Run σ) (b : Run τ) : Prop where
  cpu : a.cpu = b.cpu
  host : R a.host b.host
  trace : a.trace = b.trace
  result : a.result = b.result

namespace Cpu

variable {R : σ → τ → Prop} {s : σ} {t : τ}

theorem execute_agree (h : Host.Lockstep R) (cpu : Cpu) (i : Instruction) (hr : R s t) :
    (cpu.execute s i).Agree R (cpu.execute t i) := by
  cases i with
  | cls => exact ⟨rfl, h.clear hr, rfl⟩
  | ret =>
    simp only [execute, returnFrom]
    split
    · exact ⟨rfl, hr, rfl⟩
    · exact ⟨rfl, hr, rfl⟩
  | call a =>
    simp only [execute, call]
    split
    · exact ⟨rfl, hr, rfl⟩
    · exact ⟨rfl, hr, rfl⟩
  | rand x b =>
    obtain ⟨hb, hr'⟩ := h.randomByte hr
    refine ⟨?_, hr', rfl⟩
    simp only [execute, random, hb]
    rfl
  | draw x y n =>
    obtain ⟨hb, hr'⟩ :=
      h.blit (cpu.memory.readBytes cpu.i.toNat n.toNat) (cpu.v.get x) (cpu.v.get y) hr
    refine ⟨?_, hr', rfl⟩
    simp only [execute, draw, hb]
    rfl
  | sek x | snek x =>
    obtain ⟨hk, hr'⟩ := h.keys hr
    simp only [execute, skipOnKey, isKeyHeld_eq, hk]
    split
    · exact ⟨rfl, hr', rfl⟩
    · exact ⟨rfl, hr, rfl⟩
  | waitk x =>
    obtain ⟨hk, hr'⟩ := h.keys hr
    simp only [execute, waitForKey, hk]
    split
    · exact ⟨rfl, hr', rfl⟩
    · exact ⟨rfl, hr', rfl⟩
  | _ => exact ⟨rfl, hr, rfl⟩

end Cpu

theorem Host.Lockstep.sideBySide {R : σ → τ → Prop} (h : Host.Lockstep R) :
    Cpu.Lockstep Eq R Eq where
  paused hab := hab ▸ rfl
  countPaused hab := hab ▸ rfl
  pc hab := hab ▸ rfl
  memory hab := hab ▸ rfl
  breakpoints hab := hab ▸ rfl
  countCycle hab := hab ▸ rfl
  setPaused _ hab := hab ▸ rfl
  execute i hab hr := by
    subst hab
    obtain ⟨hcpu, hr', hfault⟩ := Cpu.execute_agree h _ i hr
    exact ⟨hcpu, hr', hfault⟩
  silent := rfl
  traceNext _ hab := hab ▸ rfl
  append hbefore hlines := by rw [hbefore, hlines]

theorem Host.Simulation.sideBySide {R : σ → τ → Prop} (h : Host.Simulation R) :
    Cpu.Simulation Eq R Eq where
  toLockstep := h.toLockstep.sideBySide
  dirty hab := hab ▸ rfl
  shown hab := hab ▸ rfl
  runTimers hab := hab ▸ rfl
  present := h.present

omit [Host σ] [Host τ] in
theorem Run.Related.agree {R : σ → τ → Prop} {a : Run σ} {b : Run τ}
    (h : a.Related Eq R Eq b) : a.Agree R b :=
  ⟨h.cpu, h.host, h.trace, h.result⟩

namespace Cpu

variable {R : σ → τ → Prop} {s : σ} {t : τ}

theorem tick_agree (h : Host.Lockstep R) (cpu : Cpu) (hr : R s t) :
    (cpu.tick s).Agree R (cpu.tick t) :=
  (h.sideBySide.tick rfl hr).agree

theorem ticks_agree (h : Host.Lockstep R) (n : Nat) (cpu : Cpu) (hr : R s t)
    (trace : Array String) : (ticks n cpu s trace).Agree R (ticks n cpu t trace) :=
  (h.sideBySide.ticks rfl hr n rfl).agree

theorem runFrame_agree (h : Host.Simulation R) (cpu : Cpu) (n : Nat) (hr : R s t) :
    (cpu.runFrame s n).Agree R (cpu.runFrame t n) :=
  (h.sideBySide.runFrame rfl hr n).agree

theorem stepTick_agree (h : Host.Lockstep R) (cpu : Cpu) (hr : R s t) :
    (cpu.stepTick s).Agree R (cpu.stepTick t) :=
  (h.sideBySide.stepTick rfl hr).agree

theorem stepOnce_agree (h : Host.Simulation R) (cpu : Cpu) (hr : R s t) :
    (cpu.stepOnce s).Agree R (cpu.stepOnce t) :=
  (h.sideBySide.stepOnce rfl hr).agree

end Cpu

/-! ### What a host keeps -/

/-- A property that a host keeps, whatever is asked of it. -/
structure Host.Keeps (K : σ → Prop) : Prop where
  randomByte {host : σ} : K host → K (Host.randomByte host).2
  keys {host : σ} : K host → K (Host.keys host).2
  clear {host : σ} : K host → K (Host.clear host)
  blit {host : σ} (sprite : List UInt8) (x y : UInt8) : K host → K (Host.blit host sprite x y).2
  present {host : σ} : K host → K (Host.present host).2

/-- A host that keeps a property is in lockstep with itself. -/
theorem Host.Keeps.simulation {K : σ → Prop} (h : Host.Keeps K) :
    Host.Simulation fun s t : σ => s = t ∧ K t where
  randomByte := by
    rintro s _ ⟨rfl, hs⟩
    exact ⟨rfl, rfl, h.randomByte hs⟩
  keys := by
    rintro s _ ⟨rfl, hs⟩
    exact ⟨rfl, rfl, h.keys hs⟩
  clear := by
    rintro s _ ⟨rfl, hs⟩
    exact ⟨rfl, h.clear hs⟩
  blit := by
    rintro s _ sprite x y ⟨rfl, hs⟩
    exact ⟨rfl, rfl, h.blit sprite x y hs⟩
  present := by
    rintro s _ ⟨rfl, hs⟩
    exact ⟨rfl, rfl, h.present hs⟩

namespace Cpu

variable {K : σ → Prop} {host : σ}

theorem tick_keeps (h : Host.Keeps K) (cpu : Cpu) (hk : K host) : K (cpu.tick host).host :=
  (cpu.tick_agree h.simulation.toLockstep ⟨rfl, hk⟩).host.2

theorem runFrame_keeps (h : Host.Keeps K) (cpu : Cpu) (n : Nat) (hk : K host) :
    K (cpu.runFrame host n).host :=
  (cpu.runFrame_agree h.simulation n ⟨rfl, hk⟩).host.2

theorem stepOnce_keeps (h : Host.Keeps K) (cpu : Cpu) (hk : K host) : K (cpu.stepOnce host).host :=
  (cpu.stepOnce_agree h.simulation ⟨rfl, hk⟩).host.2

end Cpu

end Chip8
