import Chip8.Proofs.Loading
import Chip8.Proofs.ProgramImage
import Mathlib.Data.Finset.Max
import Mathlib.Data.Nat.ModEq

/-! Memory as a ring. Bytes that run past the end go on at the beginning, and may come round to
where they began and overwrite themselves. So each cell holds the last byte that came to it, and
reading as many bytes again finds these last ones. Words lie over the end of memory in the same
way. -/

namespace Chip8

/-- Among the first numbers, the last with a property, if there is one with it. -/
theorem exists_last {p : Nat → Prop} [DecidablePred p] {n j : Nat} (hj : j < n) (hp : p j) :
    ∃ last, IsGreatest {j | j < n ∧ p j} last := by
  have hmem : j ∈ (Finset.range n).filter p := Finset.mem_filter.mpr ⟨Finset.mem_range.mpr hj, hp⟩
  have hlast := Finset.isGreatest_max' _ ⟨j, hmem⟩
  simp only [Finset.coe_filter, Finset.mem_range] at hlast
  exact ⟨_, hlast⟩

namespace Memory

variable {m : Memory} {a c : Nat} {data : List UInt8}

theorem getElem_cells (m : Memory) (h : c < 0x1000) : m.cells[c] = m.read c := by
  simp only [read, Nat.mod_eq_of_lt h]

/-! ### Bytes -/

theorem read_load_isGreatest {j : Nat} (hj : j < data.length)
    (h : IsGreatest {j | j < data.length ∧ (a + j) % 0x1000 = c % 0x1000} j) :
    (m.load a data).read c = data[j] := by
  obtain ⟨⟨_, hc⟩, hlast⟩ := h
  refine read_load_last hj hc fun k hk hjk hkc => ?_
  exact Nat.not_lt.mpr (hlast ⟨hk, hkc⟩) hjk

theorem getElem?_readBytes (m : Memory) {n k : Nat} (h : k < n) :
    (m.readBytes a n)[k]? = some (m.read (a + k)) := by
  simp [readBytes, h]

/-- A position is read from a cell to which all the bytes came that lie whole rounds from it. -/
theorem getElem?_readBytes_load {j k : Nat} (hj : j < data.length) (hk : k < data.length)
    (h : IsGreatest {j | j < data.length ∧ j ≡ k [MOD 0x1000]} j) :
    ((m.load a data).readBytes a data.length)[k]? = some data[j] := by
  have hset : {j | j < data.length ∧ (a + j) % 0x1000 = (a + k) % 0x1000} =
      {j | j < data.length ∧ j ≡ k [MOD 0x1000]} := by
    ext j
    exact and_congr_right fun _ => ⟨Nat.ModEq.add_left_cancel' a, Nat.ModEq.add_left a⟩
  rw [← hset] at h
  rw [getElem?_readBytes _ hk, read_load_isGreatest hj h]

theorem readBytes_load (h : data.length ≤ 0x1000) :
    (m.load a data).readBytes a data.length = data := by
  refine List.ext_getElem (length_readBytes ..) fun k _ hk => ?_
  simp only [readBytes, List.getElem_map, List.getElem_range, read_load h hk]

/-! ### Words -/

theorem read_writeWord (m : Memory) (p q : Nat) (w : UInt16) :
    (m.writeWord p w).read q =
      if p + 1 ≡ q [MOD 0x1000] then w.toUInt8
      else if p ≡ q [MOD 0x1000] then (w / 256).toUInt8 else m.read q := by
  rw [writeWord, read_write, read_write]
  rfl

theorem readWord_writeWord (m : Memory) (p : Nat) (w : UInt16) :
    (m.writeWord p w).readWord p = w := by
  have hnext : ¬ p + 1 ≡ p [MOD 0x1000] := by
    unfold Nat.ModEq
    omega
  have hhigh : (m.writeWord p w).read p = (w / 256).toUInt8 := by
    rw [read_writeWord, if_neg hnext, if_pos (Nat.ModEq.refl p)]
  have hlow : (m.writeWord p w).read (p + 1) = w.toUInt8 := by
    rw [read_writeWord, if_pos (Nat.ModEq.refl (p + 1))]
  rw [readWord, hhigh, hlow, Opcode.ofBytes_halves]

/-- Each cell holds the last byte that came to it, and the byte that it held before if none came.
Read back, each position shows the last byte that lies whole rounds of memory from it, so data that
fits into memory comes back as it was. A word comes back wherever it was written, and of the words
it changes none but itself and the two that overlap it. -/
theorem access_wraps (m : Memory) :
    (∀ (a : Nat) (data : List UInt8),
      (∀ (c : Nat) (hc : c < 0x1000),
        (∃ (j : Nat) (hj : j < data.length),
          IsGreatest {j | j < data.length ∧ (a + j) % 0x1000 = c} j ∧
            (m.load a data).cells[c] = data[j]) ∨
        (∀ j < data.length, (a + j) % 0x1000 ≠ c) ∧ (m.load a data).cells[c] = m.cells[c]) ∧
      (∀ k < data.length, ∃ (j : Nat) (hj : j < data.length),
        IsGreatest {j | j < data.length ∧ j ≡ k [MOD 0x1000]} j ∧
          ((m.load a data).readBytes a data.length)[k]? = some data[j]) ∧
      (data.length ≤ 0x1000 → (m.load a data).readBytes a data.length = data)) ∧
    ∀ (p q : Nat) (w : UInt16),
      (m.writeWord p w).readWord p = w ∧
      (¬ q + 1 ≡ p [MOD 0x1000] → ¬ q ≡ p [MOD 0x1000] → ¬ q ≡ p + 1 [MOD 0x1000] →
        (m.writeWord p w).read q = m.read q ∧ (m.writeWord p w).read (q + 1) = m.read (q + 1)) := by
  refine ⟨fun a data => ⟨fun c hc => ?_, fun k hk => ?_, readBytes_load⟩, fun p q w => ⟨?_, ?_⟩⟩
  · by_cases h : ∃ j < data.length, (a + j) % 0x1000 = c
    · obtain ⟨j, hj, hjc⟩ := h
      obtain ⟨last, hlast⟩ := exists_last (p := fun j => (a + j) % 0x1000 = c) hj hjc
      refine .inl ⟨last, hlast.1.1, hlast, ?_⟩
      rw [getElem_cells _ hc]
      apply read_load_isGreatest
      rwa [Nat.mod_eq_of_lt hc]
    · have hnone : ∀ j < data.length, (a + j) % 0x1000 ≠ c := fun j hj hjc => h ⟨j, hj, hjc⟩
      refine .inr ⟨hnone, ?_⟩
      rw [getElem_cells _ hc, getElem_cells _ hc, read_load_of_ne]
      rwa [Nat.mod_eq_of_lt hc]
  · obtain ⟨last, hlast⟩ := exists_last (p := fun j => j ≡ k [MOD 0x1000]) hk rfl
    exact ⟨last, hlast.1.1, hlast, getElem?_readBytes_load hlast.1.1 hk hlast⟩
  · exact m.readWord_writeWord p w
  · intro hbefore hat hafter
    rw [read_writeWord, read_writeWord, if_neg fun h => hafter h.symm, if_neg fun h => hat h.symm]
    rw [if_neg fun h => hat (Nat.ModEq.add_right_cancel' 1 h.symm), if_neg fun h => hbefore h.symm]
    exact ⟨rfl, rfl⟩

/-- Data that is two bytes longer than memory ends where it began, in the last cell and the first,
and a word lies over the same two cells. -/
theorem access_wraps_round :
    let long := List.replicate 0x1000 7 ++ [8, 9]
    (initial.load 0xfff long).cells[0xfff] = 8 ∧
      ((initial.load 0xfff long).readBytes 0xfff long.length)[1]? = some 9 ∧
      (initial.load 0xffe [1, 2, 3]).readBytes 0xffe 3 = [1, 2, 3] ∧
      (initial.writeWord 0xfff 0x1234).readWord 0xfff = 0x1234 ∧
      (initial.writeWord 0xfff 0x1234).read 2 = initial.read 2 := by
  intro long
  have hlong : long.length = 0x1002 := by
    simp only [long, List.length_append, List.length_replicate, List.length_cons, List.length_nil]
  have hend (k : Nat) : long[0x1000 + k]? = [8, 9][k]? := by
    simp only [long, List.getElem?_append, List.length_replicate]
    rw [if_neg (by omega), Nat.add_sub_cancel_left]
  obtain ⟨hbytes, hwords⟩ := access_wraps initial
  obtain ⟨hcells, hback, _⟩ := hbytes 0xfff long
  obtain ⟨_, _, hshort⟩ := hbytes 0xffe [1, 2, 3]
  obtain ⟨hword, hother⟩ := hwords 0xfff 1 0x1234
  refine ⟨?_, ?_, hshort (by decide), hword, ?_⟩
  · obtain ⟨j, hj, ⟨⟨_, hc⟩, hlast⟩, he⟩ | ⟨hnone, _⟩ := hcells 0xfff (by decide)
    · have hround : 0x1000 ≤ j := hlast ⟨by omega, by decide⟩
      obtain rfl : j = 0x1000 := by omega
      rw [he, List.getElem_eq_iff]
      exact hend 0
    · exact absurd rfl (hnone 0 (by omega))
  · obtain ⟨j, hj, ⟨⟨_, hc⟩, hlast⟩, he⟩ := hback 1 (by omega)
    have hround : 0x1001 ≤ j := hlast ⟨by omega, by decide⟩
    obtain rfl : j = 0x1001 := by omega
    rw [he, ← List.getElem?_eq_getElem hj]
    exact hend 1
  · exact (hother (by decide) (by decide) (by decide)).2

end Memory

end Chip8
