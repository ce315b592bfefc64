import Chip8.Text.Hex
import Chip8.Text.Visible

/-! The text of a value for a programmer's eye: records, sequences and quoted strings. -/

namespace Chip8.Inspect

def bool (b : Bool) : String := if b then "true" else "false"

/-- Items in square brackets. -/
def sequence (items : List String) : String := "[" ++ ", ".intercalate items ++ "]"

def field (f : String × String) : String := f.1 ++ ": " ++ f.2

/-- A name and its fields in braces; a name alone where there are none. -/
def record (name : String) : List (String × String) → String
  | [] => name
  | fields => name ++ " \x7b " ++ ", ".intercalate (fields.map field) ++ " \x7d"

/-- A record that shows only some of its fields, which two dots tell. -/
def partialRecord (name : String) (fields : List (String × String)) : String :=
  name ++ " \x7b " ++ ", ".intercalate (fields.map field ++ [".."]) ++ " \x7d"

/-- A value wrapped in a named one. -/
def wrapped (name inner : String) : String := name ++ "(" ++ inner ++ ")"

/-- A character in a quoted string: some have a short form, and other hidden ones are written as
their number. -/
def quotedChar (c : Char) : List Char :=
  match c with
  | '"' => ['\\', '"']
  | '\\' => ['\\', '\\']
  | '\n' => ['\\', 'n']
  | '\r' => ['\\', 'r']
  | '\t' => ['\\', 't']
  | '\x00' => ['\\', '0']
  | c =>
    if Visible.isHidden c then
      ['\\', 'u', '\x7b'] ++ Hex.digits .lower c.toNat ++ ['\x7d']
    else [c]

/-- A string in double quotes. -/
def quoted (s : String) : String :=
  String.ofList (['"'] ++ s.toList.flatMap quotedChar ++ ['"'])

end Chip8.Inspect
