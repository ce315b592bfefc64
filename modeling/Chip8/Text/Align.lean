/-! Texts filled with spaces to a width. A text that is wider stays as it is. -/

namespace Chip8.Align

def spaces (n : Nat) : String := String.ofList (List.replicate n ' ')

/-- Spaces in front. -/
def right (width : Nat) (text : String) : String := spaces (width - text.length) ++ text

/-- Spaces behind. -/
def left (width : Nat) (text : String) : String := text ++ spaces (width - text.length)

end Chip8.Align
