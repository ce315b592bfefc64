import Chip8.Cpu.Basic

/-! What memory holds after bytes were put into it, and a processor's memory once it was made for a
program. Data may run past the end of memory and over its own beginning, so a cell holds the last
byte that came to it. -/

namespace Chip8

namespace Memory

variable {m : Memory} {a c : Nat} {bytes : List UInt8}

theorem read_load_of_ne (h : ∀ j < bytes.length, (a + j) % 0x1000 ≠ c % 0x1000) :
    (m.load a bytes).read c = m.read c := by
  induction bytes generalizing m a with
  | nil => rfl
  | cons b bs ih =>
    have hb : a % 0x1000 ≠ c % 0x1000 := h 0 (by simp)
    rw [load, ih, read_write, if_neg hb]
    intro j hj
    rw [Nat.add_assoc, Nat.add_comm 1]
    exact h (j + 1) (by simpa using hj)

/-- A cell that data comes to holds the last byte that comes to it. -/
theorem read_load_last {j : Nat} (hj : j < bytes.length) (hc : (a + j) % 0x1000 = c % 0x1000)
    (hlast : ∀ k < bytes.length, j < k → (a + k) % 0x1000 ≠ c % 0x1000) :
    (m.load a bytes).read c = bytes[j] := by
  induction bytes generalizing m a j with
  | nil => cases hj
  | cons b bs ih =>
    have hnext (k : Nat) : a + 1 + k = a + (k + 1) := by omega
    cases j with
    | zero =>
      have hb : a % 0x1000 = c % 0x1000 := hc
      rw [load, read_load_of_ne, read_write, if_pos hb, List.getElem_cons_zero]
      intro k hk
      rw [hnext]
      exact hlast (k + 1) (by simpa using hk) k.succ_pos
    | succ j =>
      rw [load, List.getElem_cons_succ]
      rw [← hnext] at hc
      refine ih (by simpa using hj) hc fun k hk hjk => ?_
      rw [hnext]
      exact hlast (k + 1) (by simpa using hk) (by omega)

/-- Data that fits into memory can be read back. -/
theorem read_load (h : bytes.length ≤ 0x1000) {k : Nat} (hk : k < bytes.length) :
    (m.load a bytes).read (a + k) = bytes[k] := by
  refine read_load_last hk rfl fun j hj hkj => ?_
  omega

/-- A program that fits comes into cleared room. -/
theorem loadProgram_fits (m : Memory) {program : List UInt8} (h : program.length ≤ programRoom) :
    m.loadProgram program =
      (.ok (), (m.clear programStart.toNat size).load programStart.toNat program) :=
  if_neg (Nat.not_lt.mpr h)

theorem loadProgram_eq_ok_iff {m' : Memory} {program : List UInt8} :
    m.loadProgram program = (.ok (), m') ↔ program.length ≤ programRoom ∧
      m' = (m.clear programStart.toNat size).load programStart.toNat program := by
  rcases Nat.lt_or_ge programRoom program.length with h | h
  · simp [loadProgram, h, Nat.not_le.mpr h]
  · simp [loadProgram_fits m h, h, eq_comm]

/-- A part of memory that is cleared reads as zeroes, and the rest as before. -/
theorem read_clear (m : Memory) {start stop : Nat} (h : start ≤ stop ∧ stop ≤ 0x1000) (c : Nat) :
    (m.clear start stop).read c =
      if start ≤ c % 0x1000 ∧ c % 0x1000 < stop then 0 else m.read c := by
  have hc : c % 0x1000 < 0x1000 := Nat.mod_lt c (by decide)
  simp only [clear, dif_pos h, read, Vector.getElem_mk, List.getElem_toArray, List.getElem_append,
    List.getElem_take, List.getElem_drop, List.getElem_replicate, List.length_append,
    List.length_take, List.length_replicate, Vector.length_toList, Vector.getElem_toList]
  by_cases hstart : c % 0x1000 < start
  · have hfront : c % 0x1000 < min start 0x1000 + (stop - start) := by omega
    rw [dif_pos hfront, dif_pos (by omega), if_neg (by omega)]
  by_cases hstop : c % 0x1000 < stop
  · rw [dif_pos (by omega), dif_neg (by omega), if_pos (by omega)]
  · -- behind the cleared part the cells are where they were
    have hindex : stop + (c % 0x1000 - (min start 0x1000 + (stop - start))) = c % 0x1000 := by
      omega
    rw [dif_neg (by omega), if_neg (by omega)]
    simp only [hindex]

/-- After a program was loaded, memory is as before below the program space, and holds the program
and then zeroes in it. -/
theorem read_loadProgram {m' : Memory} {program : List UInt8}
    (h : m.loadProgram program = (.ok (), m')) (c : Nat) :
    m'.read c =
      if c % 0x1000 < 0x200 then m.read c else program.getD (c % 0x1000 - 0x200) 0 := by
  obtain ⟨hlen, rfl⟩ := loadProgram_eq_ok_iff.mp h
  have hroom : program.length ≤ 0xe00 := hlen
  have hspace : 0x200 ≤ 0x1000 ∧ 0x1000 ≤ 0x1000 := by decide
  have hcleared := m.read_clear hspace c
  have hc : c % 0x1000 < 0x1000 := Nat.mod_lt c (by decide)
  change ((m.clear 0x200 0x1000).load 0x200 program).read c = _
  by_cases hlow : c % 0x1000 < 0x200
  · -- the room ends where memory ends, so no byte comes to an address below it
    rw [if_pos hlow, read_load_of_ne fun j hj => by omega, hcleared, if_neg (by omega)]
  · rw [if_neg hlow, List.getD_eq_getElem?_getD]
    by_cases hk : c % 0x1000 - 0x200 < program.length
    · have hread := read_load (m := m.clear 0x200 0x1000) (a := 0x200) (by omega) hk
      rw [Nat.add_sub_cancel' (Nat.not_lt.mp hlow), read_mod] at hread
      rw [hread, List.getElem?_eq_getElem hk, Option.getD_some]
    · rw [read_load_of_ne fun j hj => by omega, hcleared, if_pos (by omega),
        List.getElem?_eq_none (Nat.not_lt.mp hk), Option.getD_none]

theorem read_programSpace {m' : Memory} {program : List UInt8}
    (h : m.loadProgram program = (.ok (), m')) (hlow : 0x200 ≤ c) (hhigh : c ≤ 0xfff) :
    m'.read c = program.getD (c - 0x200) 0 := by
  rw [read_loadProgram h, Nat.mod_eq_of_lt (by omega), if_neg (by omega)]

theorem read_offset {m' : Memory} {program : List UInt8}
    (h : m.loadProgram program = (.ok (), m')) {o : Nat} (ho : o < 0xe00) :
    m'.read (0x200 + o) = program.getD o 0 := by
  rw [read_programSpace h (by omega) (by omega), Nat.add_sub_cancel_left]

theorem read_loadProgram_below {m' : Memory} {program : List UInt8}
    (h : m.loadProgram program = (.ok (), m')) (hc : c < 0x200) : m'.read c = m.read c := by
  rw [read_loadProgram h, Nat.mod_eq_of_lt (by omega), if_pos hc]

end Memory

namespace Cpu

theorem loadProgram_of_memory (cpu : Cpu) {program : List UInt8} {memory : Memory}
    (h : cpu.memory.loadProgram program = (.ok (), memory)) :
    cpu.loadProgram program = (.ok (), { cpu with memory }) := by
  rw [loadProgram, h]

/-- A processor that is made for a program is a fresh one, but for what it is made with. -/
theorem ofProgram_of_loadProgram {program : List UInt8} {memory : Memory}
    (h : Memory.initial.loadProgram program = (.ok (), memory)) (breakpoints : List UInt16)
    (flags : Flags) :
    ofProgram program breakpoints flags = .ok { initial with memory, breakpoints, flags } := by
  rw [ofProgram, loadProgram_of_memory { initial with flags, breakpoints } h]

/-- A processor can be made for every program that fits, with the program in fresh memory. -/
theorem ofProgram_loads {program : List UInt8} (h : program.length ≤ Memory.programRoom)
    (breakpoints : List UInt16) (flags : Flags) :
    ∃ cpu, ofProgram program breakpoints flags = .ok cpu ∧
      Memory.initial.loadProgram program = (.ok (), cpu.memory) := by
  have hm := Memory.loadProgram_fits .initial h
  exact ⟨_, ofProgram_of_loadProgram hm breakpoints flags, hm⟩

theorem ofProgram_holds {program : List UInt8} (h : program.length ≤ Memory.programRoom)
    (breakpoints : List UInt16) (flags : Flags) :
    ∃ cpu, ofProgram program breakpoints flags = .ok cpu ∧
      ∀ k (hk : k < program.length), cpu.memory.read (0x200 + k) = program[k] := by
  obtain ⟨cpu, hcpu, hm⟩ := ofProgram_loads h breakpoints flags
  refine ⟨cpu, hcpu, fun k hk => ?_⟩
  have hroom : program.length ≤ 0xe00 := h
  rw [Memory.read_offset hm (by omega), List.getD_eq_getElem?_getD, List.getElem?_eq_getElem hk,
    Option.getD_some]

end Cpu

end Chip8
