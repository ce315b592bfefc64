import Chip8.Instruction.Decode
import Chip8.Instruction.Text
import Chip8.Text.Ansi

/-! Words as text, instructions and others told apart by their style. -/

namespace Chip8

structure Disassembler where
  invalid : Style
  normal : Style
  deriving DecidableEq

namespace Disassembler

def plain : Disassembler := ⟨.plain, .plain⟩

/-- Instructions are green; other words are bold and red. -/
def coloured : Disassembler := ⟨⟨some .red, true⟩, ⟨some .green, false⟩⟩

/-- The text of a word that is no instruction. -/
def invalidText (word : UInt16) : String := "inval  " ++ Hex.lower 4 word.toNat

/-- The text of one word. -/
def text (d : Disassembler) (word : UInt16) : String :=
  match Instruction.decode ⟨word⟩ with
  | some i => d.normal.paint i.text
  | none => d.invalid.paint (invalidText word)

def inspect (d : Disassembler) : String :=
  Inspect.record "Dis" [("invalid", d.invalid.inspect), ("normal", d.normal.inspect)]

end Disassembler

end Chip8
