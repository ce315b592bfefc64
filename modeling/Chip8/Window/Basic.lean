import Chip8.Error
import Chip8.Window.FrameBuffer
import Chip8.Window.Key

/-! A window whose user follows a script, and which keeps all that was asked of it. -/

namespace Chip8

/-- What the user and the display do in one frame. -/
structure Moment where
  /-- The keys that are held, in the order in which a keyboard is read. -/
  keys : List Key
  /-- The user has closed the window. -/
  closed : Bool
  /-- Showing a picture fails, for this reason. -/
  failure : Option String
  deriving DecidableEq

/-- The moment in which the keys are held that a line names, between spaces. -/
def Moment.ofLine (line : String) : Moment :=
  let names := (line.toList.splitOn ' ').filter (· ≠ [])
  ⟨names.map fun name => Key.ofName (String.ofList name), false, none⟩

/-- After the script nobody holds a key, and the window is closed. -/
def Moment.afterwards : Moment := ⟨[], true, none⟩

/-- What a program asks of a window. -/
inductive Request where
  | opened (title : String) (width height : Nat)
  | titled (text : String)
  | updated
  | shown (picture : FrameBuffer)
  deriving DecidableEq

structure Window where
  current : Moment
  coming : List Moment
  requests : Array Request

namespace Window

/-- A window that is open, before the first moment of its script. -/
def opened (title : String) (width height : Nat) (script : List Moment) : Window :=
  ⟨⟨[], false, none⟩, script, #[.opened title width height]⟩

/-- Reading the keys begins the next moment. -/
def readKeys (w : Window) : List Key × Window :=
  match w.coming with
  | m :: coming => (m.keys, { w with current := m, coming })
  | [] => ([], { w with current := .afterwards })

def isOpen (w : Window) : Bool := !w.current.closed

def log (w : Window) (r : Request) : Window := { w with requests := w.requests.push r }

def setTitle (w : Window) (text : String) : Window := w.log (.titled text)

/-- Lets the window see to itself, without a new picture. -/
def update (w : Window) : Window := w.log .updated

/-- Shows a picture. -/
def display (w : Window) (picture : FrameBuffer) : Except Error Unit × Window :=
  match w.current.failure with
  | some reason => (.error (.window .update reason), w)
  | none => (.ok (), w.log (.shown picture))

end Window

end Chip8
