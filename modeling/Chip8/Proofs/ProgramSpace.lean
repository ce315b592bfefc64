import Chip8.Proofs.FreshStart
import Mathlib.Data.List.GetD

/-! Loading a program is all or nothing. One that is too long is refused, and the processor stays as
it is. Any other fills the program space to its end, with zeroes behind it, and touches nothing
else; so the program space tells of the last program that was taken, and of nothing before it. -/

namespace Chip8

namespace Cpu

variable {σ : Type} [Host σ] {program : List UInt8}

theorem perform_loadProgram_refused (cpu : Cpu) (host : σ)
    (h : Memory.programRoom < program.length) :
    cpu.perform host (.loadProgram program) =
      ⟨cpu, host, #[], .error (.programTooLarge program.length Memory.programRoom)⟩ := by
  simp only [perform, loadProgram, Memory.loadProgram, if_pos h]
  rfl

theorem perform_loadProgram_taken (cpu : Cpu) (host : σ)
    (h : program.length ≤ Memory.programRoom) :
    ∃ memory, cpu.memory.loadProgram program = (.ok (), memory) ∧
      cpu.perform host (.loadProgram program) = ⟨{ cpu with memory }, host, #[], .ok ()⟩ := by
  have hm := Memory.loadProgram_fits cpu.memory h
  refine ⟨_, hm, ?_⟩
  simp only [perform, loadProgram, hm]
  rfl

end Cpu

namespace Machine

variable {σ : Type} [Host σ] {m : Machine σ}

/-- Nothing is written to memory: a program is refused, or memory is left to instructions, none of
which writes to it. -/
def SparesMemory (m : Machine σ) (u : Use σ) : Prop :=
  (∃ program, u = .operation (.loadProgram program) ∧ Memory.programRoom < program.length) ∨
    u.keepsMemory = true ∧ ∀ k ∈ m.executing u, k.Storeless

theorem SparesMemory.memory_eq {u : Use σ} (h : m.SparesMemory u) :
    (m.use u).cpu.memory = m.cpu.memory := by
  obtain ⟨program, rfl, hlong⟩ | ⟨hu, hk⟩ := h
  · rw [use, Cpu.perform_loadProgram_refused m.cpu m.host hlong]
  · exact use_memory hu hk

theorem memory_since {uses : Nat → Use σ} {s t : Nat} (hst : s ≤ t)
    (h : ∀ r, s ≤ r → r < t → (m.used uses r).SparesMemory (uses r)) :
    (m.used uses t).cpu.memory = (m.used uses s).cpu.memory := by
  induction hst with
  | refl => rfl
  | @step t hst ih =>
    have hlast := h t hst (Nat.lt_succ_self t)
    exact hlast.memory_eq.trans (ih fun r hr hrt => h r hr (Nat.lt_succ_of_lt hrt))

/-- The program space, as long as nothing is written to memory after a program was taken. -/
theorem read_since_load {uses : Nat → Use σ} {s t : Nat} {program : List UInt8} (hst : s < t)
    (hload : uses s = .operation (.loadProgram program))
    (hfits : program.length ≤ Memory.programRoom)
    (h : ∀ r, s < r → r < t → (m.used uses r).SparesMemory (uses r)) {c : Nat} (hlow : 0x200 ≤ c)
    (hhigh : c ≤ 0xfff) : (m.used uses t).cpu.memory.read c = program.getD (c - 0x200) 0 := by
  obtain ⟨memory, hm, hrun⟩ :=
    (m.used uses s).cpu.perform_loadProgram_taken (m.used uses s).host hfits
  have hloaded : (m.used uses (s + 1)).cpu.memory = memory := by
    simp only [used, hload, use, hrun, Run.machine]
  rw [memory_since hst h, hloaded, Memory.read_programSpace hm hlow hhigh]

end Machine

namespace Cpu

variable {σ : Type} [Host σ]

/-- A program is refused if and only if it is longer than the program space, and then nothing
changes. Any other is put where programs begin, with zeroes from there to the end of memory, and
nothing else changes. The program space is the same after any history in which this program was the
last that was taken, and nothing was written to memory since. -/
theorem loadProgram_exact (cpu : Cpu) (host : σ) (program : List UInt8) :
    let run := cpu.perform host (.loadProgram program)
    run.host = host ∧
    (∀ e, run.result = .error e ↔
      0xe00 < program.length ∧ e = .programTooLarge program.length 0xe00) ∧
    (0xe00 < program.length → run.cpu = cpu) ∧
    (program.length ≤ 0xe00 →
      run.cpu = { cpu with memory := run.cpu.memory } ∧
      (∀ k (hk : k < program.length), run.cpu.memory.read (0x200 + k) = program[k]) ∧
      (∀ c, 0x200 + program.length ≤ c → c ≤ 0xfff → run.cpu.memory.read c = 0) ∧
      (∀ c < 0x200, run.cpu.memory.read c = cpu.memory.read c) ∧
      ∀ (m : Machine σ) (uses : Nat → Use σ) (s t : Nat), s < t →
        uses s = .operation (.loadProgram program) →
        (∀ r, s < r → r < t → (m.used uses r).SparesMemory (uses r)) →
        ∀ c, 0x200 ≤ c → c ≤ 0xfff →
          (m.used uses t).cpu.memory.read c = run.cpu.memory.read c) := by
  intro run
  rcases Nat.lt_or_ge 0xe00 program.length with hlong | hfits
  · have hrun : run = ⟨cpu, host, #[], .error (.programTooLarge program.length 0xe00)⟩ :=
      cpu.perform_loadProgram_refused host hlong
    rw [hrun]
    refine ⟨rfl, fun e => ?_, fun _ => rfl, fun hfits => absurd hlong (Nat.not_lt.mpr hfits)⟩
    constructor
    · rintro ⟨⟩
      exact ⟨hlong, rfl⟩
    · rintro ⟨_, rfl⟩
      rfl
  · obtain ⟨memory, hm, hrun⟩ := cpu.perform_loadProgram_taken host hfits
    have hrun : run = ⟨{ cpu with memory }, host, #[], .ok ()⟩ := hrun
    rw [hrun]
    refine ⟨rfl, fun e => ?_, fun hlong => absurd hlong (Nat.not_lt.mpr hfits), fun _ => ?_⟩
    · constructor
      · rintro ⟨⟩
      · rintro ⟨hlong, _⟩
        exact absurd hlong (Nat.not_lt.mpr hfits)
    refine ⟨rfl, fun k hk => ?_, fun c hlow hhigh => ?_, fun c hc => ?_, ?_⟩
    · rw [Memory.read_offset hm (by omega)]
      exact List.getD_eq_getElem _ _ hk
    · rw [Memory.read_programSpace hm (by omega) hhigh]
      exact List.getD_eq_default _ _ (by omega)
    · exact Memory.read_loadProgram_below hm hc
    · intro m uses s t hst hload hspared c hlow hhigh
      rw [Machine.read_since_load hst hload hfits hspared hlow hhigh]
      exact (Memory.read_programSpace hm hlow hhigh).symm

/-- A byte is written behind a program that is loaded next; then one comes that is refused. -/
def reloading : Nat → Use Headless
  | 0 => .operation (.write 0x300 0xff)
  | 1 => .operation (.loadProgram [0x12, 0x00])
  | _ => .operation (.loadProgram (List.replicate 0xe01 0))

/-- The program is there, and the byte behind it is not. -/
theorem loadProgram_exact_reloading :
    let m : Machine Headless := ⟨initial, Headless.seeded 0⟩
    (m.used reloading 1).cpu.memory.read 0x300 = 0xff ∧
    (m.used reloading 3).cpu.memory.read 0x200 = 0x12 ∧
    (m.used reloading 3).cpu.memory.read 0x300 = 0 := by
  intro m
  have hfits : [0x12, 0x00].length ≤ 0xe00 := by decide
  obtain ⟨-, -, -, hloaded⟩ := loadProgram_exact initial (Headless.seeded 0) [0x12, 0x00]
  obtain ⟨-, hprogram, hzeroes, -, hsince⟩ := hloaded hfits
  have hlast := hsince m reloading 1 3 (by decide) rfl fun r hr hrt => by
    obtain rfl : r = 2 := by omega
    exact .inl ⟨_, rfl, by rw [List.length_replicate]; decide⟩
  refine ⟨by decide +kernel, ?_, ?_⟩
  · rw [hlast 0x200 (by decide) (by decide)]
    exact hprogram 0 (by decide)
  · rw [hlast 0x300 (by decide) (by decide)]
    exact hzeroes 0x300 (by decide) (by decide)

end Cpu

end Chip8
