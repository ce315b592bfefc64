import Chip8.Text.Inspect

/-! Colours and weight on a terminal. -/

namespace Chip8

inductive Colour where
  | red | green | yellow | brightBlack
  deriving DecidableEq

def Colour.code : Colour → Nat
  | .red => 31
  | .green => 32
  | .yellow => 33
  | .brightBlack => 90

def Colour.name : Colour → String
  | .red => "Red"
  | .green => "Green"
  | .yellow => "Yellow"
  | .brightBlack => "BrightBlack"

namespace Ansi

/-- The sequence that switches display attributes. -/
def escape (attributes : List Nat) : String :=
  "\x1b[" ++ ";".intercalate (attributes.map Nat.repr) ++ "m"

/-- A colour for a text, and the default colour after it. -/
def coloured (c : Colour) (text : String) : String := escape [c.code] ++ text ++ escape [39]

def bold (text : String) : String := escape [1] ++ text ++ escape [0]

/-- How an error that ends a program is shown. -/
def alarm (text : String) : String := coloured .red (bold text)

end Ansi

/-- A colour and a weight that are set and reset together. -/
structure Style where
  colour : Option Colour
  bold : Bool
  deriving DecidableEq

namespace Style

def plain : Style := ⟨none, false⟩

def attributes (s : Style) : List Nat :=
  (s.colour.map Colour.code).toList ++ (if s.bold then [1] else [])

/-- A text in this style; the plain style writes no escape sequence. -/
def paint (s : Style) (text : String) : String :=
  if s.attributes.isEmpty then text else Ansi.escape s.attributes ++ text ++ Ansi.escape [0]

def inspect (s : Style) : String :=
  let foreground := match s.colour with
    | some c => Inspect.wrapped "Some" (Inspect.wrapped "Ansi" c.name)
    | none => "None"
  Inspect.record "Style" [("fg", foreground), ("bg", "None"), ("bold", Inspect.bool s.bold),
    ("style_flags", Inspect.wrapped "StyleFlags" "0")]

end Style

end Chip8
