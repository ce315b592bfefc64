import Chip8.Command.Report
import Chip8.Disassembler
import Chip8.Options.Value

/-! The command that lists a program, one word a line. -/

namespace Chip8.Listing

structure Settings where
  file : Option String
  help : Bool
  loadAddress : UInt16
  offset : Nat
  plain : Bool

def commandLine : Options.CommandLine Settings where
  initial := ⟨none, false, 0x200, 0, false⟩
  free := ⟨"file", "Load a ROM to disassemble", fun s f => { s with file := some f },
    (·.file.isSome)⟩
  options := [
    Options.flag 'h' "help" "Show help text" ({ · with help := true }),
    Options.value 'l' "loadaddr" "LOADADDR" "Load address (usually 200)" (some "200")
      Options.address ({ · with loadAddress := · }),
    Options.value 'o' "offset" "OFFSET" "Start disassembling at offset..." none
      Options.number ({ · with offset := · }),
    Options.flag 'p' "plain" "Print without colors" ({ · with plain := true })]
  wantsHelp := (·.help)

/-- A line of a listing. -/
structure Line where
  address : Nat
  word : UInt16
  deriving DecidableEq

/-- The words of a program from an address on; a lone last byte is the high half of a word. -/
def lines : Nat → List UInt8 → List Line
  | _, [] => []
  | a, [high] => [⟨a % 0x1000, (Opcode.ofBytes high 0).word⟩]
  | a, high :: low :: rest => ⟨a % 0x1000, (Opcode.ofBytes high low).word⟩ :: lines (a + 2) rest

/-- The lines of a file, without the bytes in front of the offset. -/
def ofFile (loadAddress : UInt16) (offset : Nat) (contents : List UInt8) : List Line :=
  lines (loadAddress.toNat + offset) (contents.drop offset)

/-- Address, text and word; the word is grey. -/
def Line.text (d : Disassembler) (l : Line) : String :=
  Hex.lower 3 l.address ++ ": " ++ d.text l.word ++ " " ++
    Ansi.coloured .brightBlack (Hex.lower 4 l.word.toNat)

def Settings.disassembler (s : Settings) : Disassembler :=
  if s.plain then .plain else .coloured

/-- The whole listing. -/
def print (s : Settings) (contents : List UInt8) : String :=
  String.join ((ofFile s.loadAddress s.offset contents).map fun l => l.text s.disassembler ++ "\n")

def run (program : String) (arguments : List String) (read : ReadFile) : Report :=
  match commandLine.settings program arguments with
  | .error report => report
  | .ok s =>
    match read.contents (s.file.getD "") with
    | .error e => .ofError e
    | .ok contents => .success (print s contents) ""

end Chip8.Listing
