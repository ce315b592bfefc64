import Chip8.Command.Listing
import Chip8.Proofs.Encoding
import Chip8.Proofs.Loading

/-! A program written as instructions, put into a file, and read again: by the processor that is made
for it, which fetches the same instructions, and by the listing of the file, which prints them. -/

namespace Chip8

/-- The two halves of a word, put together again. -/
theorem Opcode.ofBytes_halves (w : UInt16) :
    (Opcode.ofBytes (w / 256).toUInt8 w.toUInt8).word = w := by
  have hw := w.toNat_lt
  rw [← UInt16.toNat_inj]
  simp only [Opcode.ofBytes, UInt16.toNat_add, UInt16.toNat_mul, UInt8.toNat_toUInt16,
    UInt16.toNat_toUInt8, UInt16.toNat_div, UInt16.reduceToNat]
  omega

namespace Instruction

/-- A program as it stands in a file: the word of each instruction, high byte first. -/
def image (p : List Instruction) : List UInt8 :=
  p.flatMap fun i => [(i.encode / 256).toUInt8, i.encode.toUInt8]

@[simp] theorem image_cons (i : Instruction) (p : List Instruction) :
    image (i :: p) = (i.encode / 256).toUInt8 :: i.encode.toUInt8 :: image p := rfl

@[simp] theorem length_image (p : List Instruction) : (image p).length = 2 * p.length := by
  induction p with
  | nil => rfl
  | cons i p ih =>
    simp only [image_cons, List.length_cons, ih]
    omega

theorem getElem?_image {p : List Instruction} {k : Nat} {i : Instruction} (h : p[k]? = some i) :
    (image p)[2 * k]? = some (i.encode / 256).toUInt8 ∧
      (image p)[2 * k + 1]? = some i.encode.toUInt8 := by
  induction p generalizing k with
  | nil => cases h
  | cons j p ih =>
    cases k with
    | zero =>
      obtain rfl : j = i := by simpa using h
      exact ⟨rfl, rfl⟩
    | succ k => exact ih h

end Instruction

open Instruction

/-- Memory that holds a program's image has the word of each instruction in its place. -/
theorem Memory.readWord_image {m : Memory} {a : Nat} {p : List Instruction}
    (h : ∀ k (hk : k < (image p).length), m.read (a + k) = (image p)[k]) {k : Nat}
    (hk : k < p.length) : m.readWord (a + 2 * k) = p[k].encode := by
  obtain ⟨hhigh, hlow⟩ := getElem?_image (List.getElem?_eq_getElem hk)
  obtain ⟨hk0, hhigh⟩ := List.getElem?_eq_some_iff.mp hhigh
  obtain ⟨hk1, hlow⟩ := List.getElem?_eq_some_iff.mp hlow
  rw [readWord, h _ hk0, Nat.add_assoc, h _ hk1, hhigh, hlow, Opcode.ofBytes_halves]

namespace Listing

theorem lines_image (a : Nat) (p : List Instruction) :
    lines a (image p) = p.mapIdx fun k i => ⟨(a + 2 * k) % 0x1000, i.encode⟩ := by
  induction p generalizing a with
  | nil => rfl
  | cons i p ih =>
    have hnext (k : Nat) : a + 2 + 2 * k = a + 2 * (k + 1) := by omega
    simp only [image_cons, lines, Opcode.ofBytes_halves, ih, List.mapIdx_cons, hnext, Nat.mul_zero,
      Nat.add_zero]

theorem Line.text_plain {w : UInt16} {i : Instruction} (h : decode ⟨w⟩ = some i) (a : Nat) :
    (Line.mk a w).text .plain =
      Hex.lower 3 a ++ ": " ++ i.text ++ " " ++ Ansi.coloured .brightBlack (Hex.lower 4 w.toNat) := by
  rw [Line.text, Disassembler.text, h]
  rfl

/-- A command line that is understood and a file that is there make a listing. -/
theorem run_ok {program : String} {arguments : List String} {s : Settings} {read : ReadFile}
    {contents : List UInt8} (hs : commandLine.settings program arguments = .ok s)
    (hc : read.contents (s.file.getD "") = .ok contents) :
    run program arguments read = .success (print s contents) "" := by
  simp only [run, hs, hc]

/-- The plain listing of a program's image, one instruction a line. -/
theorem print_image {s : Settings} (hp : s.plain = true) (ha : s.loadAddress = 0x200)
    (ho : s.offset = 0) {p : List Instruction} (h : ∀ i ∈ p, i.InRange) (hlen : p.length ≤ 0x700) :
    print s (image p) = String.join (p.mapIdx fun k i =>
      Hex.lower 3 (0x200 + 2 * k) ++ ": " ++ i.text ++ " " ++
        Ansi.coloured .brightBlack (Hex.lower 4 i.encode.toNat) ++ "\n") := by
  have hd : s.disassembler = .plain := if_pos hp
  have hlines : ofFile s.loadAddress s.offset (image p) =
      p.mapIdx fun k i => ⟨(0x200 + 2 * k) % 0x1000, i.encode⟩ := by
    rw [ofFile, ha, ho, List.drop_zero, lines_image]
    rfl
  rw [print, hlines, hd]
  refine congrArg String.join (List.ext_getElem (by simp) fun k hk _ => ?_)
  rw [List.length_map, List.length_mapIdx] at hk
  -- the last line is the one at 0xffe, so no address wraps
  have haddress : (0x200 + 2 * k) % 0x1000 = 0x200 + 2 * k := by omega
  rw [List.getElem_map, List.getElem_mapIdx, List.getElem_mapIdx, haddress,
    Line.text_plain (decode_encode (h p[k] (List.getElem_mem hk)))]

end Listing

/-- Programs survive the way through a file. A processor can be made for the image of any program of
at most `0x700` instructions whose operands fit, and it fetches at `0x200 + 2k` the `k`-th of them; the
plain listing of the file has one line for each, with its address and its text. The other way round,
a word that stands for an instruction is the word that the table has for it, so no other word stands
for it. -/
theorem Instruction.image_roundTrip :
    (∀ p : List Instruction, (∀ i ∈ p, i.InRange) → p.length ≤ 0x700 →
      (∀ breakpoints flags, ∃ cpu, Cpu.ofProgram (image p) breakpoints flags = .ok cpu ∧
        ∀ k (hk : k < p.length), decode ⟨cpu.memory.readWord (0x200 + 2 * k)⟩ = some p[k]) ∧
      ∀ program arguments settings, ∀ read : ReadFile,
        Listing.commandLine.settings program arguments = .ok settings →
        settings.plain = true → settings.loadAddress = 0x200 → settings.offset = 0 →
        read.contents (settings.file.getD "") = .ok (image p) →
        Listing.run program arguments read = .success (String.join (p.mapIdx fun k i =>
          Hex.lower 3 (0x200 + 2 * k) ++ ": " ++ i.text ++ " " ++
            Ansi.coloured .brightBlack (Hex.lower 4 i.encode.toNat) ++ "\n")) "") ∧
    (∀ w i, decode ⟨w⟩ = some i → i.InRange ∧ i.encode = w) ∧
    ∀ v w i, decode ⟨v⟩ = some i → decode ⟨w⟩ = some i → v = w := by
  refine ⟨fun p h hlen => ⟨fun breakpoints flags => ?_, ?_⟩, ?_, ?_⟩
  · have hfits : (image p).length ≤ Memory.programRoom := by
      have hroom : Memory.programRoom = 2 * 0x700 := rfl
      rw [length_image, hroom]
      omega
    obtain ⟨cpu, hcpu, hholds⟩ := Cpu.ofProgram_holds hfits breakpoints flags
    refine ⟨cpu, hcpu, fun k hk => ?_⟩
    rw [Memory.readWord_image hholds hk]
    exact decode_encode (h p[k] (List.getElem_mem hk))
  · intro program arguments s read hs hp ha ho hc
    rw [Listing.run_ok hs hc, Listing.print_image hp ha ho h hlen]
  · intro w i hw
    exact decode_eq_some_iff.mp hw
  · intro v w i hv hw
    exact (encode_of_decode hv).symm.trans (encode_of_decode hw)

/-- The plain listing of a file with three instructions. -/
theorem Instruction.image_roundTrip_glyph :
    (∃ cpu, Cpu.ofProgram [0x00, 0xe0, 0xd0, 0x15, 0x12, 0x02] [] .none = .ok cpu ∧
      decode ⟨cpu.memory.readWord 0x202⟩ = some (.draw 0 1 5)) ∧
    Listing.run "list" ["-p", "rom.ch8"] (fun _ => .ok [0x00, 0xe0, 0xd0, 0x15, 0x12, 0x02]) =
      .success ("200: cls     \x1b[90m00e0\x1b[39m\n" ++
        "202: draw   #5, v0, v1 \x1b[90md015\x1b[39m\n" ++
        "204: jmp    202 \x1b[90m1202\x1b[39m\n") "" ∧
    (draw 0 1 5).encode = 0xd015 := by
  have hp : ∀ i ∈ [cls, draw 0 1 5, jmp 0x202], i.InRange := by decide
  obtain ⟨hforth, hback, -⟩ := image_roundTrip
  obtain ⟨hcpu, hlisting⟩ := hforth _ hp (by decide)
  obtain ⟨cpu, hcpu, hdecode⟩ := hcpu [] .none
  refine ⟨⟨cpu, hcpu, hdecode 1 (by decide)⟩, ?_, (hback _ _ (by decide)).2⟩
  refine (hlisting "list" ["-p", "rom.ch8"] _ _ rfl (by decide) (by decide) (by decide) rfl).trans ?_
  decide +kernel

end Chip8
