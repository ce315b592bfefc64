import Chip8.Instruction.Basic

/-! Assembly text, with the source in front of the destination, and the record of an instruction. -/

namespace Chip8.Instruction

/-- The name of a register. -/
def register (x : Nat) : String := "v" ++ Hex.upper 0 x

/-- A byte as an operand. -/
def immediate (b : UInt8) : String := "#" ++ Hex.lower 2 b.toNat

/-- An address as a target. -/
def target (a : UInt16) : String := Hex.lower 3 a.toNat

/-- The mnemonic fills seven columns; `vY` stands before `vX`. -/
def text : Instruction → String
  | cls => "cls    "
  | ret => "ret    "
  | jmp a => "jmp    " ++ target a
  | call a => "call   " ++ target a
  | seb x b => "se     " ++ immediate b ++ ", " ++ register x
  | sneb x b => "sne    " ++ immediate b ++ ", " ++ register x
  | se x y => "se     " ++ register y ++ ", " ++ register x
  | movb x b => "mov    " ++ immediate b ++ ", " ++ register x
  | addb x b => "add    " ++ immediate b ++ ", " ++ register x
  | mov x y => "mov    " ++ register y ++ ", " ++ register x
  | or x y => "or     " ++ register y ++ ", " ++ register x
  | and x y => "and    " ++ register y ++ ", " ++ register x
  | xor x y => "xor    " ++ register y ++ ", " ++ register x
  | add x y => "add    " ++ register y ++ ", " ++ register x
  | sub x y => "sub    " ++ register y ++ ", " ++ register x
  | shr x y => "shr    " ++ register y ++ ", " ++ register x
  | bsub x y => "bsub   " ++ register y ++ ", " ++ register x
  | shl x y => "shl    " ++ register y ++ ", " ++ register x
  | sne x y => "sne    " ++ register y ++ ", " ++ register x
  | movI a => "mov    $" ++ target a ++ ", I"
  | jmpr a => "jmp    $" ++ target a ++ "+v0"
  | rand x b => "rand   " ++ immediate b ++ ", " ++ register x
  | draw x y n => "draw   #" ++ Hex.lower 0 n.toNat ++ ", " ++ register x ++ ", " ++ register y
  | sek x => "sek    " ++ register x
  | snek x => "snek   " ++ register x
  | getdt x => "mov    DT, " ++ register x
  | waitk x => "waitk  " ++ register x
  | setdt x => "mov    " ++ register x ++ ", DT"
  | movst x => "mov    " ++ register x ++ ", ST"
  | addI x => "add    " ++ register x ++ ", I"
  | font x => "font   " ++ register x ++ ", I"
  | bcd x => "bcd    " ++ register x ++ ", &I"
  | dmao x => "dmao   " ++ register x
  | dmai x => "dmai   " ++ register x

/-- The name that tells an instruction from every other, also from one with the same mnemonic. -/
def name : Instruction → String
  | cls => "cls"
  | ret => "ret"
  | jmp .. => "jmp"
  | call .. => "call"
  | seb .. => "seb"
  | sneb .. => "sneb"
  | se .. => "se"
  | movb .. => "movb"
  | addb .. => "addb"
  | mov .. => "mov"
  | or .. => "or"
  | and .. => "and"
  | xor .. => "xor"
  | add .. => "add"
  | sub .. => "sub"
  | shr .. => "shr"
  | bsub .. => "bsub"
  | shl .. => "shl"
  | sne .. => "sne"
  | movI .. => "movI"
  | jmpr .. => "jmpr"
  | rand .. => "rand"
  | draw .. => "draw"
  | sek .. => "sek"
  | snek .. => "snek"
  | getdt .. => "getdt"
  | waitk .. => "waitk"
  | setdt .. => "setdt"
  | movst .. => "movst"
  | addI .. => "addI"
  | font .. => "font"
  | bcd .. => "bcd"
  | dmao .. => "dmao"
  | dmai .. => "dmai"

/-- The operands, by the letter of their field. -/
def operands : Instruction → List (String × Nat)
  | cls | ret => []
  | jmp a | call a | movI a | jmpr a => [("a", a.toNat)]
  | seb x b | sneb x b | movb x b | addb x b | rand x b => [("x", x), ("b", b.toNat)]
  | se x y | mov x y | or x y | and x y | xor x y | add x y | sub x y | shr x y | bsub x y | shl x y
  | sne x y => [("x", x), ("y", y)]
  | draw x y n => [("x", x), ("y", y), ("n", n.toNat)]
  | sek x | snek x | getdt x | waitk x | setdt x | movst x | addI x | font x | bcd x | dmao x
  | dmai x => [("x", x)]

def inspect (i : Instruction) : String :=
  Inspect.record i.name (i.operands.map fun (field, value) => (field, value.repr))

end Chip8.Instruction
