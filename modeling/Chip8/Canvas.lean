/-! Canvases: what dots can be set on, to be shown in text. A character shows a cell of two by four
dots, in braille. -/

namespace Chip8

class Canvas (κ : Type) where
  /-- No dot is set. -/
  new (width height : UInt32) : κ
  set (canvas : κ) (x y : UInt32) : κ
  /-- The lines of characters, with line ends between them. -/
  frame (canvas : κ) : String

namespace Braille

/-- The weight of a dot of a cell: the rows of each column are not numbered in a straight line. -/
def dotWeight : (dx dy : Nat) → UInt8
  | 0, 0 => 0x01
  | 0, 1 => 0x02
  | 0, 2 => 0x04
  | 0, _ => 0x40
  | _, 0 => 0x08
  | _, 1 => 0x10
  | _, 2 => 0x20
  | _, _ => 0x80

/-- The character of a cell by the weights of its dots. A cell without dots is a space. -/
def char (weight : UInt8) : Char := if weight = 0 then ' ' else Char.ofNat (0x2800 + weight.toNat)

end Braille

/-- A canvas whose cells are numbered in sixteen bits, across and down. After the last number comes
the first again, so dots that lie whole rounds of numbers apart share a cell. -/
structure CellCanvas where
  /-- The weights of the dots that are set in the cell at a column and a row. -/
  weight : UInt16 → UInt16 → UInt8
  /-- That of the corner, or one further out if there is a dot. -/
  lastColumn : UInt16
  lastRow : UInt16

namespace CellCanvas

def new (width height : UInt32) : CellCanvas :=
  ⟨fun _ _ => 0, (width / 2).toUInt16, (height / 4).toUInt16⟩

def set (canvas : CellCanvas) (x y : UInt32) : CellCanvas :=
  let column := (x / 2).toUInt16
  let row := (y / 4).toUInt16
  let dot := Braille.dotWeight (x % 2).toNat (y % 4).toNat
  { weight := fun c r =>
      if c = column ∧ r = row then canvas.weight c r ||| dot else canvas.weight c r
    lastColumn := max canvas.lastColumn column
    lastRow := max canvas.lastRow row }

def line (canvas : CellCanvas) (row : Nat) : String :=
  String.ofList <| (List.range (canvas.lastColumn.toNat + 1)).map fun column =>
    Braille.char (canvas.weight (UInt16.ofNat column) (UInt16.ofNat row))

def frame (canvas : CellCanvas) : String :=
  "\n".intercalate ((List.range (canvas.lastRow.toNat + 1)).map canvas.line)

instance : Canvas CellCanvas where
  new := new
  set := set
  frame := frame

end CellCanvas

end Chip8
