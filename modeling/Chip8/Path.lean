/-! Paths of slashes and names: the pieces of a path, the name that it ends in, and that name
without its extension. -/

namespace Chip8.Path

/-- The pieces between the slashes. -/
def pieces (path : String) : List (List Char) := path.toList.splitOn '/'

/-- The path starts at the root. -/
def isAbsolute (path : String) : Bool := path.toList.head? == some '/'

/-- A piece that leads nowhere: nothing, or a single dot. -/
def staysPut (piece : List Char) : Bool := piece == [] || piece == ['.']

/-- A piece that leads to the folder above. -/
def climbs (piece : List Char) : Bool := piece == ['.', '.']

/-- The names along a path. -/
def names (path : String) : List (List Char) := (pieces path).filter (!staysPut ·)

/-- The last name, unless it leads back to the parent. -/
def fileName? (path : String) : Option (List Char) := (names path).getLast?.filter (!climbs ·)

/-- What stands before the last dot. A dot at the front starts no extension. -/
def withoutExtension (name : List Char) : List Char :=
  let stem := ((name.reverse.dropWhile (· ≠ '.')).drop 1).reverse
  if stem.isEmpty then name else stem

/-- The last name without its extension. -/
def stem? (path : String) : Option String :=
  (fileName? path).map fun name => String.ofList (withoutExtension name)

/-! ### Limits -/

/-- The most bytes of a path. -/
def maxBytes : Nat := 4095

/-- The most bytes of one name in it. -/
def maxNameBytes : Nat := 255

/-- A zero would end a name before its end. -/
def holdsZero (path : String) : Bool := path.toList.contains '\x00'

end Chip8.Path
