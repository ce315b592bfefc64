import Chip8.Proofs.Frame

/-! What instructions do to the host. Only those that draw clear the screen or put a sprite on it, each
of them once; the others at most read the keys or take a random byte. The screen is never shown by
an instruction, and a frame or a single step shows it at most once, after its ticks. -/

namespace Chip8

variable {σ : Type} [Host σ]

/-- Reading the keys and taking a random byte keep a property of the host. -/
structure Host.Undisturbed (J : σ → Prop) : Prop where
  randomByte {host : σ} : J host → J (Host.randomByte host).2
  keys {host : σ} : J host → J (Host.keys host).2

/-- One host is the other with something drawn on its screen, if only that it was cleared. -/
def Host.DrawnOn (host drawn : σ) : Prop :=
  drawn = Host.clear host ∨ ∃ sprite x y, drawn = (Host.blit host sprite x y).2

namespace Cpu

theorem execute_drawing (cpu : Cpu) (host : σ) {i : Instruction} (h : i.draws = true) :
    Host.DrawnOn host (cpu.execute host i).host := by
  cases i with
  | cls => exact .inl rfl
  | draw => exact .inr ⟨_, _, _, rfl⟩
  | _ => cases h

theorem execute_undisturbed {J : σ → Prop} (hJ : Host.Undisturbed J) (cpu : Cpu) {host : σ}
    {i : Instruction} (hd : i.draws = false) (h : J host) : J (cpu.execute host i).host := by
  cases i with
  | cls | draw => cases hd
  | ret =>
    simp only [execute, returnFrom]
    split <;> exact h
  | call =>
    simp only [execute, call]
    split <;> exact h
  | rand => exact hJ.randomByte h
  | sek | snek =>
    simp only [execute, skipOnKey, isKeyHeld_eq]
    split
    · exact hJ.keys h
    · exact h
  | waitk =>
    simp only [execute, waitForKey]
    split <;> exact hJ.keys h
  | _ => exact h

/-- Whether a tick draws. -/
def drawsNext (cpu : Cpu) : Bool := cpu.executed.any Instruction.draws

theorem tick_drawing {cpu : Cpu} (host : σ) (h : cpu.drawsNext = true) :
    Host.DrawnOn host (cpu.tick host).host := by
  obtain ⟨hp, _⟩ | ⟨e, _, hf, _⟩ | ⟨i, done, hp, hi, hf, rfl, ⟨_, he⟩ | ⟨_, he⟩⟩ :=
    cpu.tick_cases host
  · simp [drawsNext, executed_of_paused hp] at h
  · simp [drawsNext, executed_of_fault hf] at h
  · rw [drawsNext, executed_of_decode hp hi hf] at h
    rw [he]
    exact execute_drawing _ host h
  · rw [drawsNext, executed_of_decode hp hi hf] at h
    rw [he]
    exact execute_drawing _ host h

theorem tick_undisturbed {J : σ → Prop} (hJ : Host.Undisturbed J) {cpu : Cpu} {host : σ}
    (hd : cpu.drawsNext = false) (h : J host) : J (cpu.tick host).host := by
  obtain ⟨_, he⟩ | ⟨e, _, _, he⟩ | ⟨i, done, hp, hi, hf, rfl, ⟨_, he⟩ | ⟨_, he⟩⟩ :=
    cpu.tick_cases host
  · rw [he]
    exact h
  · rw [he]
    exact h
  · rw [drawsNext, executed_of_decode hp hi hf] at hd
    rw [he]
    exact execute_undisturbed hJ _ hd h
  · rw [drawsNext, executed_of_decode hp hi hf] at hd
    rw [he]
    exact execute_undisturbed hJ _ hd h

end Cpu

end Chip8
