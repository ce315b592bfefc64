import Chip8.Disassembler
import Chip8.Proofs.Digits
import Chip8.Proofs.Encoding
import Chip8.Text.Align
import Mathlib.Tactic.Simps.Basic

/-! Assembly text is read back. A line is a mnemonic, filled up to seven columns, and operands
between commas, each of which shows its kind by its letters. Several instructions share a mnemonic,
but none of these have operands of the same kinds. So every instruction can be read from its text,
also one whose operands fit into no word, and every word from its line. -/

namespace Chip8

namespace Assembly

/-! ### Operands -/

/-- What an operand stands for, by the way in which it is written. -/
inductive Operand where
  /-- `v` and a number. -/
  | register (x : Nat)
  /-- `#` and a number. -/
  | immediate (n : Nat)
  /-- A bare number. -/
  | target (a : Nat)
  /-- `$` and a number. -/
  | address (a : Nat)
  /-- `$`, a number and `+v0`. -/
  | indexed (a : Nat)
  | index
  | pointed
  | delay
  | sound
  deriving DecidableEq

/-- Reads an operand. -/
def Operand.ofChars? : List Char → Option Operand
  | ['I'] => some .index
  | ['&', 'I'] => some .pointed
  | ['D', 'T'] => some .delay
  | ['S', 'T'] => some .sound
  | 'v' :: cs => (Hex.read? cs).map .register
  | '#' :: cs => (Hex.read? cs).map .immediate
  | '$' :: cs =>
    match cs.splitOn '+' with
    | [a] => (Hex.read? a).map .address
    | [a, ['v', '0']] => (Hex.read? a).map .indexed
    | _ => none
  | cs => (Hex.read? cs).map .target

/-- A text that stays in one piece, as it has none of the characters between operands or lines. -/
def Whole (s : String) : Prop := ' ' ∉ s.toList ∧ ',' ∉ s.toList ∧ '\n' ∉ s.toList

instance (s : String) : Decidable (Whole s) := inferInstanceAs (Decidable (_ ∧ _ ∧ _))

theorem Whole.append {s t : String} (hs : Whole s) (ht : Whole t) : Whole (s ++ t) := by
  simp only [Whole, String.toList_append, List.mem_append, not_or]
  exact ⟨⟨hs.1, ht.1⟩, ⟨hs.2.1, ht.2.1⟩, hs.2.2, ht.2.2⟩

theorem whole_digits (k : Hex.LetterCase) (width n : Nat) : Whole (Hex.write k width n) :=
  ⟨Hex.not_mem_write (by decide) k width n, Hex.not_mem_write (by decide) k width n,
    Hex.not_mem_write (by decide) k width n⟩

theorem splitOn_digits (k : Hex.LetterCase) (width n : Nat) :
    (Hex.write k width n).toList.splitOn '+' = [(Hex.write k width n).toList] := by
  have hplus : '+' ∉ (Hex.write k width n).toList := Hex.not_mem_write (by decide) k width n
  have hne : [(Hex.write k width n).toList] ≠ [] := List.cons_ne_nil _ _
  simpa using List.splitOn_intercalate '+' (by simpa) hne

theorem splitOn_digits_v0 (k : Hex.LetterCase) (width n : Nat) :
    ((Hex.write k width n).toList ++ ['+', 'v', '0']).splitOn '+' =
      [(Hex.write k width n).toList, ['v', '0']] := by
  have hplus : '+' ∉ (Hex.write k width n).toList := Hex.not_mem_write (by decide) k width n
  have hne : [(Hex.write k width n).toList, ['v', '0']] ≠ [] := List.cons_ne_nil _ _
  simpa using List.splitOn_intercalate '+' (by simpa) hne

/-- A bare number is none of the other operands, as these have a letter that is no digit. -/
theorem ofChars?_digits (k : Hex.LetterCase) (width n : Nat) :
    Operand.ofChars? (Hex.write k width n).toList = some (.target n) := by
  have hread := Hex.read?_write k width n
  generalize (Hex.write k width n).toList = cs at hread
  unfold Operand.ofChars?
  split
  case h_8 => rw [hread, Option.map_some]
  all_goals
    simp [Hex.read?, Hex.readOn, Number.digitValue?] at hread

/-- The text of an operand, which is read back. -/
structure Written where
  text : String
  operand : Operand
  whole : Whole text
  reads : Operand.ofChars? text.toList = some operand

namespace Written

@[simps]
def index : Written := ⟨"I", .index, by decide, by decide⟩

@[simps]
def pointed : Written := ⟨"&I", .pointed, by decide, by decide⟩

@[simps]
def delay : Written := ⟨"DT", .delay, by decide, by decide⟩

@[simps]
def sound : Written := ⟨"ST", .sound, by decide, by decide⟩

@[simps]
def register (x : Nat) : Written where
  text := Instruction.register x
  operand := .register x
  whole := Whole.append (by decide) (whole_digits _ _ _)
  reads := by simp [Instruction.register, Operand.ofChars?, Hex.upper, Hex.read?_write]

/-- A number of some width, as a byte or as a single digit. -/
@[simps]
def immediate (width n : Nat) : Written where
  text := "#" ++ Hex.lower width n
  operand := .immediate n
  whole := Whole.append (by decide) (whole_digits _ _ _)
  reads := by simp [Operand.ofChars?, Hex.lower, Hex.read?_write]

@[simps]
def target (width n : Nat) : Written where
  text := Hex.lower width n
  operand := .target n
  whole := whole_digits _ _ _
  reads := ofChars?_digits ..

@[simps]
def address (a : UInt16) : Written where
  text := "$" ++ Instruction.target a
  operand := .address a.toNat
  whole := Whole.append (by decide) (whole_digits _ _ _)
  reads := by
    simp [Instruction.target, Operand.ofChars?, Hex.lower, Hex.read?_write, splitOn_digits]

@[simps]
def indexed (a : UInt16) : Written where
  text := "$" ++ Instruction.target a ++ "+v0"
  operand := .indexed a.toNat
  whole := Whole.append (Whole.append (by decide) (whole_digits _ _ _)) (by decide)
  reads := by
    simp [Instruction.target, Operand.ofChars?, Hex.lower, Hex.read?_write, splitOn_digits_v0]

end Written

/-! ### Lines -/

/-- A mnemonic and the operands that stand behind it. -/
structure Line where
  mnemonic : String
  operands : List Operand
  deriving DecidableEq

/-- What stands between commas. -/
def pieces (cs : List Char) : List (List Char) := if cs.isEmpty then [] else cs.splitOn ','

/-- Reads a line. The blanks around its parts do not count. -/
def Line.ofText? (text : String) : Option Line :=
  let mnemonic := text.toList.takeWhile (· ≠ ' ')
  let rest := (text.toList.dropWhile (· ≠ ' ')).filter (· ≠ ' ')
  ((pieces rest).mapM Operand.ofChars?).map (Line.mk (String.ofList mnemonic))

/-- The text of a line. -/
def line (mnemonic : String) (operands : List Written) : String :=
  Align.left 7 mnemonic ++ ", ".intercalate (operands.map Written.text)

theorem filter_intercalate {pieces : List (List Char)} (h : ∀ p ∈ pieces, ' ' ∉ p) :
    ([',', ' '].intercalate pieces).filter (· ≠ ' ') = [','].intercalate pieces := by
  have hself {p : List Char} (hp : ' ' ∉ p) : p.filter (· ≠ ' ') = p := by
    rw [List.filter_eq_self]
    intro c hc
    have hne : c ≠ ' ' := ne_of_mem_of_not_mem hc hp
    simpa using hne
  induction pieces with
  | nil => rfl
  | cons p ps ih =>
    rw [List.forall_mem_cons] at h
    cases ps with
    | nil => simpa using hself h.1
    | cons q qs =>
      rw [List.intercalate_cons_cons, List.intercalate_cons_cons, List.filter_append,
        List.filter_append, ih h.2, hself h.1]
      rfl

theorem pieces_intercalate {ps : List (List Char)} (hcomma : ∀ p ∈ ps, ',' ∉ p)
    (hne : ∀ p ∈ ps, p ≠ []) : pieces ([','].intercalate ps) = ps := by
  cases ps with
  | nil => rfl
  | cons p ps =>
    have hpiece : [','].intercalate (p :: ps) ≠ [] := by
      cases ps with
      | nil => simpa using hne p
      | cons q qs => simp [List.intercalate_cons_cons]
    rw [pieces, List.isEmpty_eq_false_iff.mpr hpiece]
    exact List.splitOn_intercalate ',' hcomma (List.cons_ne_nil p ps)

theorem Written.toList_ne_nil (o : Written) : o.text.toList ≠ [] := by
  intro hnil
  have hreads := o.reads
  rw [hnil] at hreads
  cases hreads

theorem mapM_written (operands : List Written) :
    (operands.map fun o => o.text.toList).mapM Operand.ofChars? =
      some (operands.map Written.operand) := by
  induction operands with
  | nil => rfl
  | cons o os ih => simp [o.reads, ih]

theorem toList_line {mnemonic : String} (hlength : mnemonic.length < 7) (operands : List Written) :
    ∃ k, (line mnemonic operands).toList = mnemonic.toList ++ ' ' :: (List.replicate k ' ' ++
      [',', ' '].intercalate (operands.map fun o => o.text.toList)) := by
  obtain ⟨k, hk⟩ : ∃ k, 7 - mnemonic.length = k + 1 := ⟨6 - mnemonic.length, by omega⟩
  refine ⟨k, ?_⟩
  simp [line, Align.left, Align.spaces, hk, List.replicate_succ, String.toList_intercalate,
    Function.comp_def]

theorem ofText?_line {mnemonic : String} (hwhole : Whole mnemonic)
    (hlength : mnemonic.length < 7) (operands : List Written) :
    Line.ofText? (line mnemonic operands) = some ⟨mnemonic, operands.map Written.operand⟩ := by
  obtain ⟨k, hline⟩ := toList_line hlength operands
  have hletters : ∀ c ∈ mnemonic.toList, decide (c ≠ ' ') = true := by
    intro c hc
    simpa using ne_of_mem_of_not_mem hc hwhole.1
  have hblanks : ∀ p ∈ operands.map fun o => o.text.toList, ' ' ∉ p := by
    simpa using fun o _ => o.whole.1
  have hcommas : ∀ p ∈ operands.map fun o => o.text.toList, ',' ∉ p := by
    simpa using fun o _ => o.whole.2.1
  have hne : ∀ p ∈ operands.map fun o => o.text.toList, p ≠ [] := by
    rw [List.forall_mem_map]
    exact fun o _ => o.toList_ne_nil
  have hmnemonic : (line mnemonic operands).toList.takeWhile (· ≠ ' ') = mnemonic.toList := by
    rw [hline, List.takeWhile_append_of_pos hletters]
    simp
  have hrest : ((line mnemonic operands).toList.dropWhile (· ≠ ' ')).filter (· ≠ ' ') =
      [','].intercalate (operands.map fun o => o.text.toList) := by
    rw [hline, List.dropWhile_append_of_pos hletters, ← filter_intercalate hblanks]
    simp
  simp only [Line.ofText?, hmnemonic, hrest, pieces_intercalate hcommas hne, mapM_written,
    Option.map_some, String.ofList_toList]

theorem not_mem_intercalate {c : Char} {ps : List (List Char)} (hc : c ∉ [',', ' '])
    (hps : ∀ p ∈ ps, c ∉ p) : c ∉ [',', ' '].intercalate ps := by
  induction ps with
  | nil => simp
  | cons p ps ih =>
    rw [List.forall_mem_cons] at hps
    cases ps with
    | nil => simpa using hps.1
    | cons q qs =>
      rw [List.intercalate_cons_cons, List.mem_append, List.mem_append, not_or, not_or]
      exact ⟨⟨hps.1, hc⟩, ih hps.2⟩

/-- A line does not break. -/
theorem newline_not_mem_line {mnemonic : String} (hwhole : Whole mnemonic)
    (hlength : mnemonic.length < 7) (operands : List Written) :
    '\n' ∉ (line mnemonic operands).toList := by
  obtain ⟨k, hline⟩ := toList_line hlength operands
  have hpieces : '\n' ∉ [',', ' '].intercalate (operands.map fun o => o.text.toList) := by
    apply not_mem_intercalate (by decide)
    rw [List.forall_mem_map]
    exact fun o _ => o.whole.2.2
  simp [hline, hwhole.2.2, hpieces]

/-! ### Instructions -/

/-- The instructions that have these operands, by their mnemonics. -/
def forms : List Operand → List (String × Instruction)
  | [] => [("cls", .cls), ("ret", .ret)]
  | [.target a] => [("jmp", .jmp (.ofNat a)), ("call", .call (.ofNat a))]
  | [.indexed a] => [("jmp", .jmpr (.ofNat a))]
  | [.address a, .index] => [("mov", .movI (.ofNat a))]
  | [.immediate b, .register x] =>
    [("se", .seb x (.ofNat b)), ("sne", .sneb x (.ofNat b)), ("mov", .movb x (.ofNat b)),
      ("add", .addb x (.ofNat b)), ("rand", .rand x (.ofNat b))]
  | [.register y, .register x] =>
    [("se", .se x y), ("sne", .sne x y), ("mov", .mov x y), ("or", .or x y), ("and", .and x y),
      ("xor", .xor x y), ("add", .add x y), ("sub", .sub x y), ("shr", .shr x y),
      ("bsub", .bsub x y), ("shl", .shl x y)]
  | [.immediate n, .register x, .register y] => [("draw", .draw x y (.ofNat n))]
  | [.register x] =>
    [("sek", .sek x), ("snek", .snek x), ("waitk", .waitk x), ("dmao", .dmao x), ("dmai", .dmai x)]
  | [.delay, .register x] => [("mov", .getdt x)]
  | [.register x, .delay] => [("mov", .setdt x)]
  | [.register x, .sound] => [("mov", .movst x)]
  | [.register x, .index] => [("add", .addI x), ("font", .font x)]
  | [.register x, .pointed] => [("bcd", .bcd x)]
  | _ => []

/-- The instruction of a line. -/
def Line.instruction? (l : Line) : Option Instruction := (forms l.operands).lookup l.mnemonic

/-- The word of a line. One that is no instruction is written as `inval` and its number. -/
def Line.word? (l : Line) : Option UInt16 :=
  match l.mnemonic, l.operands with
  | "inval", [.target w] => some (.ofNat w)
  | _, _ => l.instruction?.map Instruction.encode

end Assembly

namespace Instruction

open Assembly

/-- The first word of the text. -/
def mnemonic : Instruction → String
  | seb .. => "se"
  | sneb .. => "sne"
  | jmpr .. => "jmp"
  | addb .. | addI .. => "add"
  | movb .. | movI .. | getdt .. | setdt .. | movst .. => "mov"
  | i => i.name

/-- The operands in the order in which they are written. -/
def written : Instruction → List Written
  | cls | ret => []
  | jmp a | call a => [.target 3 a.toNat]
  | jmpr a => [.indexed a]
  | movI a => [.address a, .index]
  | seb x b | sneb x b | movb x b | addb x b | rand x b => [.immediate 2 b.toNat, .register x]
  | se x y | sne x y | mov x y | or x y | and x y | xor x y | add x y | sub x y | shr x y | bsub x y
  | shl x y => [.register y, .register x]
  | draw x y n => [.immediate 0 n.toNat, .register x, .register y]
  | sek x | snek x | waitk x | dmao x | dmai x => [.register x]
  | getdt x => [.delay, .register x]
  | setdt x => [.register x, .delay]
  | movst x => [.register x, .sound]
  | addI x | font x => [.register x, .index]
  | bcd x => [.register x, .pointed]

theorem text_eq_line (i : Instruction) : i.text = line i.mnemonic i.written := by
  apply String.toList_inj.mp
  -- what is left for `rfl` is the number of blanks
  cases i <;>
    simp [text, line, mnemonic, name, written, Align.left, Align.spaces, immediate, target] <;>
    rfl

/-- No two forms with the same mnemonic have operands of the same kinds. -/
theorem instruction?_line (i : Instruction) :
    Line.instruction? ⟨i.mnemonic, i.written.map Written.operand⟩ = some i := by
  cases i <;> simp [Line.instruction?, mnemonic, name, written, forms, List.lookup_cons]

theorem mnemonic_short (i : Instruction) :
    Whole i.mnemonic ∧ i.mnemonic.length < 7 ∧ i.mnemonic ≠ "inval" := by
  cases i <;> simp only [mnemonic, name] <;> decide

/-- Reads an instruction. -/
def ofText? (text : String) : Option Instruction := (Line.ofText? text).bind Line.instruction?

theorem lineOfText?_text (i : Instruction) :
    Line.ofText? i.text = some ⟨i.mnemonic, i.written.map Written.operand⟩ := by
  obtain ⟨hwhole, hlength, -⟩ := i.mnemonic_short
  rw [text_eq_line, ofText?_line hwhole hlength]

theorem ofText?_text (i : Instruction) : ofText? i.text = some i := by
  rw [ofText?, lineOfText?_text, Option.bind_some, instruction?_line]

theorem text_injective : Function.Injective text := by
  intro i j h
  have hi := ofText?_text i
  rw [h, ofText?_text] at hi
  exact (Option.some.inj hi).symm

theorem newline_not_mem_text (i : Instruction) : '\n' ∉ i.text.toList := by
  obtain ⟨hwhole, hlength, -⟩ := i.mnemonic_short
  rw [text_eq_line]
  exact newline_not_mem_line hwhole hlength i.written

theorem word?_line (i : Instruction) :
    Line.word? ⟨i.mnemonic, i.written.map Written.operand⟩ = some i.encode := by
  obtain ⟨-, -, hinval⟩ := i.mnemonic_short
  unfold Line.word?
  split
  next h _ => exact absurd h hinval
  next => rw [instruction?_line, Option.map_some]

end Instruction

/-- A style adds no line break to a text. -/
theorem Style.newline_not_mem_paint (s : Style) {text : String} (h : '\n' ∉ text.toList) :
    '\n' ∉ (s.paint text).toList := by
  have hset : '\n' ∉ (Ansi.escape s.attributes).toList := by
    obtain ⟨colour, bold⟩ := s
    cases colour with
    | none => cases bold <;> decide
    | some c => cases c <;> cases bold <;> decide
  have hreset : '\n' ∉ (Ansi.escape [0]).toList := by decide
  unfold paint
  split
  · exact h
  · simp [hset, h, hreset]

/-! ### Words -/

namespace Disassembler

open Assembly

/-- The word that a line was written for. -/
def assemble? (text : String) : Option UInt16 := (Line.ofText? text).bind Line.word?

theorem invalidText_eq_line (w : UInt16) : invalidText w = line "inval" [.target 4 w.toNat] := by
  apply String.toList_inj.mp
  simp [invalidText, line, Align.left, Align.spaces]
  rfl

theorem lineOfText?_invalidText (w : UInt16) :
    Line.ofText? (invalidText w) = some ⟨"inval", [.target w.toNat]⟩ := by
  rw [invalidText_eq_line, ofText?_line (by decide) (by decide)]
  rfl

theorem plain_text (w : UInt16) :
    plain.text w = ((Instruction.decode ⟨w⟩).map Instruction.text).getD (invalidText w) := by
  unfold text
  cases Instruction.decode ⟨w⟩ <;> rfl

theorem assemble?_text (w : UInt16) : assemble? (plain.text w) = some w := by
  rw [plain_text, assemble?]
  cases h : Instruction.decode ⟨w⟩ with
  | some i =>
    rw [Option.map_some, Option.getD_some, Instruction.lineOfText?_text, Option.bind_some,
      Instruction.word?_line, Instruction.encode_of_decode h]
  | none =>
    rw [Option.map_none, Option.getD_none, lineOfText?_invalidText, Option.bind_some]
    simp [Line.word?]

theorem text_ne_invalidText (i : Instruction) (w : UInt16) : i.text ≠ invalidText w := by
  intro h
  have hline := Instruction.lineOfText?_text i
  rw [h, lineOfText?_invalidText] at hline
  obtain ⟨-, -, hinval⟩ := i.mnemonic_short
  exact hinval (congrArg Line.mnemonic (Option.some.inj hline)).symm

/-- No disassembler breaks the line of a word. -/
theorem newline_not_mem_text (d : Disassembler) (w : UInt16) : '\n' ∉ (d.text w).toList := by
  unfold text
  cases Instruction.decode ⟨w⟩ with
  | some i => exact d.normal.newline_not_mem_paint i.newline_not_mem_text
  | none =>
    refine d.invalid.newline_not_mem_paint ?_
    rw [invalidText_eq_line]
    exact newline_not_mem_line (by decide) (by decide) _

/-- Assembly text loses nothing. An instruction is read back from its text, whether or not its
operands fit into a word, so that no two have the same text; a word is read back from its line; and
the line of a word that is no instruction is the text of none. -/
theorem text_lossless :
    Function.Injective Instruction.text ∧ Function.Injective plain.text ∧
      (∀ i, Instruction.ofText? i.text = some i) ∧ (∀ w, assemble? (plain.text w) = some w) ∧
      ∀ w, plain.text w = ((Instruction.decode ⟨w⟩).map Instruction.text).getD (invalidText w) ∧
        ∀ i : Instruction, i.text ≠ invalidText w := by
  refine ⟨Instruction.text_injective, ?_, Instruction.ofText?_text, assemble?_text, ?_⟩
  · intro v w h
    have hv := assemble?_text v
    rw [h, assemble?_text] at hv
    exact (Option.some.inj hv).symm
  · exact fun w => ⟨plain_text w, fun i => text_ne_invalidText i w⟩

theorem text_lossless_wide :
    Instruction.ofText? "draw   #c8, v12C, v11" = some (.draw 0x12c 0x11 0xc8) ∧
      assemble? "mov    $2f0, I" = some 0xa2f0 ∧ assemble? "inval  5121" = some 0x5121 := by
  obtain ⟨-, -, hinstruction, hword, -⟩ := text_lossless
  have hdraw : (Instruction.draw 0x12c 0x11 0xc8).text = "draw   #c8, v12C, v11" := by
    decide +kernel
  have hmovI : plain.text 0xa2f0 = "mov    $2f0, I" := by decide +kernel
  have hinval : plain.text 0x5121 = "inval  5121" := by decide +kernel
  exact ⟨hdraw ▸ hinstruction _, hmovI ▸ hword _, hinval ▸ hword _⟩

end Disassembler
end Chip8
