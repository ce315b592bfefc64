import Chip8.Proofs.Assembly
import Chip8.Proofs.ProgramImage
import Mathlib.Data.List.Basic
import Mathlib.Data.List.GetD

/-! A listing shows what memory holds. The file is cut into words from an offset on, and each word
stands where the processor that is made for the file fetches it. They part in one place only, at
the end of memory: there the listing fills a lone byte with zero, and a fetch goes on at the
beginning. -/

namespace Chip8

theorem Opcode.ofBytes_low_ne (high : UInt8) {b c : UInt8} (h : b ≠ c) :
    (ofBytes high b).word ≠ (ofBytes high c).word := by
  intro hword
  refine h (UInt8.toNat_inj.mp ?_)
  have hnat := congrArg UInt16.toNat hword
  have hhigh := high.toNat_lt
  have hb := b.toNat_lt
  have hc := c.toNat_lt
  simp only [ofBytes, UInt16.toNat_add, UInt16.toNat_mul, UInt8.toNat_toUInt16,
    UInt16.reduceToNat] at hnat
  omega

namespace Memory

/-- The first cell holds the first row of a zero, whatever was loaded. -/
theorem read_zero_of_loadProgram {m : Memory} {program : List UInt8}
    (h : initial.loadProgram program = (.ok (), m)) : m.read 0 = 0xf0 := by
  have hfont : initial.read (0 + 0) = glyphs[0] := read_load (by decide) (by decide)
  rw [read_loadProgram_below h (by decide)]
  exact hfont

end Memory

namespace Listing

/-- The word that a file has at an offset, with zeroes for bytes that it does not have. -/
def wordAt (contents : List UInt8) (offset : Nat) : UInt16 :=
  (Opcode.ofBytes (contents.getD offset 0) (contents.getD (offset + 1) 0)).word

/-- How many words a file has from an offset on, a lone last byte included. -/
def wordCount (length offset : Nat) : Nat := (length - offset + 1) / 2

theorem lines_eq (a : Nat) (bytes : List UInt8) :
    lines a bytes = (List.range (wordCount bytes.length 0)).map fun k =>
      ⟨(a + 2 * k) % 0x1000, wordAt bytes (2 * k)⟩ := by
  induction a, bytes using lines.induct with
  | case1 a => rfl
  | case2 a high => simp [lines, wordCount, wordAt]
  | case3 a high low rest ih =>
    have hcount : wordCount (high :: low :: rest).length 0 = wordCount rest.length 0 + 1 := by
      simp only [wordCount, List.length_cons]
      omega
    have hnext (k : Nat) : a + 2 + 2 * k = a + 2 * (k + 1) := by omega
    rw [lines, ih, hcount, List.range_succ_eq_map, List.map_cons, List.map_map]
    simp only [hnext]
    rfl

theorem ofFile_eq (loadAddress : UInt16) (offset : Nat) (contents : List UInt8) :
    ofFile loadAddress offset contents =
      (List.range (wordCount contents.length offset)).map fun k =>
        ⟨(loadAddress.toNat + offset + 2 * k) % 0x1000, wordAt contents (offset + 2 * k)⟩ := by
  simp only [ofFile, lines_eq, wordAt, wordCount, List.length_drop, Nat.sub_zero,
    List.getD_eq_getElem?_getD, List.getElem?_drop, Nat.add_assoc]

/-- A line does not break. -/
theorem Line.newline_not_mem_text (d : Disassembler) (l : Line) : '\n' ∉ (l.text d).toList := by
  have haddress : '\n' ∉ (Hex.lower 3 l.address).toList := Hex.not_mem_write (by decide) _ _ _
  have hword : '\n' ∉ (Hex.lower 4 l.word.toNat).toList := Hex.not_mem_write (by decide) _ _ _
  have htext := d.newline_not_mem_text l.word
  have hgrey : '\n' ∉ (Ansi.escape [Colour.brightBlack.code]).toList := by decide
  have hdefault : '\n' ∉ (Ansi.escape [39]).toList := by decide
  simp [Line.text, Ansi.coloured, haddress, hword, htext, hgrey, hdefault]

/-- The line of a file's last byte, if that is alone in its word and at the end of memory. -/
def AtEnd (length offset k : Nat) : Prop :=
  length = 0xe00 ∧ offset % 2 = 1 ∧ k + 1 = wordCount length offset

instance (length offset k : Nat) : Decidable (AtEnd length offset k) :=
  inferInstanceAs (Decidable (_ ∧ _ ∧ _))

/-- The words of a file are those of the memory that it is loaded into, up to the end of both. -/
theorem wordAt_eq {m : Memory} {contents : List UInt8}
    (h : Memory.initial.loadProgram contents = (.ok (), m)) {offset k : Nat}
    (hk : k < wordCount contents.length offset) (hend : ¬ AtEnd contents.length offset k) :
    wordAt contents (offset + 2 * k) = m.readWord (0x200 + offset + 2 * k) := by
  have hfits : contents.length ≤ 0xe00 := (Memory.loadProgram_eq_ok_iff.mp h).1
  simp only [AtEnd, wordCount] at hk hend
  have hhigh := Memory.read_offset h (o := offset + 2 * k) (by omega)
  have hlow := Memory.read_offset h (o := offset + 2 * k + 1) (by omega)
  rw [Nat.add_assoc, Memory.readWord, hhigh, Nat.add_assoc, hlow, wordAt]

/-- The word at the end has its high byte from memory, and its low byte from nowhere. -/
theorem wordAt_end {m : Memory} {contents : List UInt8}
    (h : Memory.initial.loadProgram contents = (.ok (), m)) {offset k : Nat}
    (hend : AtEnd contents.length offset k) :
    0x200 + offset + 2 * k = 0xfff ∧
      wordAt contents (offset + 2 * k) = (Opcode.ofBytes (m.read 0xfff) 0).word := by
  obtain ⟨hlength, hodd, hlast⟩ := hend
  rw [wordCount] at hlast
  have hoffset : offset + 2 * k = 0xdff := by omega
  have hhigh : m.read 0xfff = contents.getD 0xdff 0 := Memory.read_offset (o := 0xdff) h (by decide)
  have hlow : contents.getD 0xe00 0 = 0 := List.getD_eq_default _ _ (by omega)
  exact ⟨by omega, by rw [wordAt, hoffset, hhigh, hlow]⟩

/-- The listing of a file that fits into memory, beside a processor that is made for the file. There
is a line for each word from the offset on, with the address where the word is loaded, its text and
its digits, and it is the word that the processor reads at that address. Only where the last byte of
the file is at the end of memory and the offset leaves it alone, the line fills the word with a zero
and the processor with the first byte of memory. -/
theorem run_shows_memory {program : String} {arguments : List String} {s : Settings}
    {read : ReadFile} {contents : List UInt8}
    (hs : commandLine.settings program arguments = .ok s)
    (hc : read.contents (s.file.getD "") = .ok contents) (hfits : contents.length ≤ 0xe00)
    (breakpoints : List UInt16) (flags : Flags) :
    ∃ cpu, Cpu.ofProgram contents breakpoints flags = .ok cpu ∧ ∃ listed : List String,
      run program arguments read = .success (String.join (listed.map (· ++ "\n"))) "" ∧
      listed.length = (contents.length - s.offset + 1) / 2 ∧
      ∀ k (hk : k < listed.length), '\n' ∉ listed[k].toList ∧
        let a := 0x200 + s.offset + 2 * k
        a ≤ 0xfff ∧
        (s.loadAddress = 0x200 → (s.loadAddress.toNat + s.offset + 2 * k) % 0x1000 = a) ∧
        ∃ w : UInt16,
          listed[k] = Hex.lower 3 ((s.loadAddress.toNat + s.offset + 2 * k) % 0x1000) ++ ": " ++
            (if s.plain then Disassembler.plain else .coloured).text w ++ " " ++
            Ansi.coloured .brightBlack (Hex.lower 4 w.toNat) ∧
          (¬ AtEnd contents.length s.offset k → w = cpu.memory.readWord a) ∧
          (AtEnd contents.length s.offset k → a = 0xfff ∧
            w = (Opcode.ofBytes (cpu.memory.read 0xfff) 0).word ∧
            cpu.memory.readWord a =
              (Opcode.ofBytes (cpu.memory.read 0xfff) (cpu.memory.read 0)).word ∧
            w ≠ cpu.memory.readWord a) := by
  obtain ⟨cpu, hcpu, hm⟩ := Cpu.ofProgram_loads hfits breakpoints flags
  refine ⟨cpu, hcpu,
    (ofFile s.loadAddress s.offset contents).map (Line.text s.disassembler), ?_, ?_, ?_⟩
  · rw [run_ok hs hc, print, List.map_map]
    rfl
  · rw [ofFile_eq, List.length_map, List.length_map, List.length_range, wordCount]
  · intro k hk
    rw [ofFile_eq, List.length_map, List.length_map, List.length_range] at hk
    have hlast : 0x200 + s.offset + 2 * k ≤ 0xfff := by
      simp only [wordCount] at hk
      omega
    simp only [List.getElem_map, ofFile_eq, List.getElem_range]
    refine ⟨Line.newline_not_mem_text _ _, hlast, ?_,
      wordAt contents (s.offset + 2 * k), rfl, wordAt_eq hm hk, ?_⟩
    · intro hload
      rw [hload]
      exact Nat.mod_eq_of_lt (Nat.lt_succ_of_le hlast)
    · intro hend
      obtain ⟨haddress, hw⟩ := wordAt_end hm hend
      have hwrap : cpu.memory.readWord 0xfff =
          (Opcode.ofBytes (cpu.memory.read 0xfff) (cpu.memory.read 0)).word := rfl
      rw [haddress]
      refine ⟨rfl, hw, hwrap, ?_⟩
      rw [hw, hwrap, Memory.read_zero_of_loadProgram hm]
      exact Opcode.ofBytes_low_ne _ (by decide)

/-- A file that fills the program space, listed from its last three bytes on. -/
theorem run_shows_memory_full :
    ∃ cpu, Cpu.ofProgram (List.replicate 0xe00 0x61) [] .none = .ok cpu ∧
      ∃ first last : String,
        run "list" ["-o", "3581", "rom.ch8"] (fun _ => .ok (List.replicate 0xe00 0x61)) =
          .success (first ++ "\n" ++ last ++ "\n") "" ∧
        (∃ w, w = cpu.memory.readWord 0xffd ∧
          first = "ffd: " ++ Disassembler.coloured.text w ++ " " ++
            Ansi.coloured .brightBlack (Hex.lower 4 w.toNat)) ∧
        ∃ w, w ≠ cpu.memory.readWord 0xfff ∧
          last = "fff: " ++ Disassembler.coloured.text w ++ " " ++
            Ansi.coloured .brightBlack (Hex.lower 4 w.toNat) := by
  have hlength : (List.replicate 0xe00 (0x61 : UInt8)).length = 0xe00 := List.length_replicate
  have hs : commandLine.settings "list" ["-o", "3581", "rom.ch8"] =
      .ok ⟨some "rom.ch8", false, 0x200, 3581, false⟩ := rfl
  have hffd : Hex.lower 3 0xffd ++ ": " = "ffd: " := by decide +kernel
  have hfff : Hex.lower 3 0xfff ++ ": " = "fff: " := by decide +kernel
  let read : ReadFile := fun _ => .ok (List.replicate 0xe00 0x61)
  have hread : read.contents "rom.ch8" = .ok (List.replicate 0xe00 0x61) := rfl
  obtain ⟨cpu, hcpu, listed, hrun, hcount, hlines⟩ :=
    run_shows_memory hs hread (Nat.le_of_eq hlength) [] .none
  rw [hlength] at hcount hlines
  obtain ⟨first, last, rfl⟩ := List.length_eq_two.mp hcount
  obtain ⟨-, -, -, v, hfirst, hv, -⟩ := hlines 0 (Nat.succ_pos 1)
  obtain ⟨-, -, -, w, hlast, -, hw⟩ := hlines 1 (Nat.lt_succ_self 1)
  have hjoin : String.join ([first, last].map (· ++ "\n")) = first ++ "\n" ++ last ++ "\n" := by
    simp [String.append_assoc]
  rw [hjoin] at hrun
  refine ⟨cpu, hcpu, first, last, hrun, ⟨v, hv (by decide), ?_⟩, w, ?_, ?_⟩
  · rw [← hffd]
    exact hfirst
  · exact (hw (by decide)).2.2.2
  · rw [← hfff]
    exact hlast

end Listing
end Chip8
