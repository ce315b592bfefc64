/-! The keys of a keyboard, what they are on the keypad, and what they tell the program to do. -/

namespace Chip8

/-- A key with a letter, with a digit, with a function number, or with a name. -/
inductive Key where
  | digit (n : Nat)
  | letter (c : Char)
  | function (n : Nat)
  | comma
  | period
  | slash
  | backslash
  | enter
  | delete
  | escape
  | other (name : String)
  deriving DecidableEq

namespace Key

/-- The key of a name, as `Key1`, `Q`, `F5` or `Comma`. -/
def ofName (name : String) : Key :=
  match name.toList with
  | ['K', 'e', 'y', d] => if d.isDigit then digit (d.toNat - '0'.toNat) else other name
  | [c] => if c.isUpper then letter c else other name
  | ['F', d] => if d.isDigit then function (d.toNat - '0'.toNat) else other name
  | ['F', '1', d] => if d.isDigit then function (10 + (d.toNat - '0'.toNat)) else other name
  | _ =>
    match name with
    | "Comma" => comma
    | "Period" => period
    | "Slash" => slash
    | "Backslash" => backslash
    | "Enter" => enter
    | "Delete" => delete
    | "Escape" => escape
    | _ => other name

/-- The four by four keys on the left of the keyboard are the keypad. -/
def hex? : Key → Option Nat
  | digit 1 => some 0x1
  | digit 2 => some 0x2
  | digit 3 => some 0x3
  | digit 4 => some 0xc
  | letter 'Q' => some 0x4
  | letter 'W' => some 0x5
  | letter 'E' => some 0x6
  | letter 'R' => some 0xd
  | letter 'A' => some 0x7
  | letter 'S' => some 0x8
  | letter 'D' => some 0x9
  | letter 'F' => some 0xe
  | letter 'Z' => some 0xa
  | letter 'X' => some 0x0
  | letter 'C' => some 0xb
  | letter 'V' => some 0xf
  | _ => none

/-- What a key tells the program. -/
inductive Command where
  | dump
  | printScreen
  | saveScreen
  | toggleTracing
  | togglePause
  | step
  | addBreakpoint
  | removeBreakpoint
  | restart
  | reset
  | quit
  deriving DecidableEq

def command? : Key → Option Command
  | function 1 | comma => some .dump
  | function 2 | period => some .printScreen
  | function 3 => some .saveScreen
  | function 4 | slash => some .toggleTracing
  | function 5 | backslash => some .togglePause
  | function 6 | enter => some .step
  | function 7 => some .addBreakpoint
  | function 8 => some .removeBreakpoint
  | function 9 | delete => some .restart
  | function 12 => some .reset
  | escape => some .quit
  | _ => none

end Key

end Chip8
