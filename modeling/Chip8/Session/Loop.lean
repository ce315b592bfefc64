import Chip8.Session.Keyboard

/-! The loop of a session: read the keyboard, run the instructions of a frame, see to the window. -/

namespace Chip8.Session

/-- The instructions of a frame, but none during a pause. A breakpoint is only told. -/
def runInstructions (s : Session) : Except Error Unit × Session :=
  if s.cpu.flags.paused then (.ok (), s)
  else
    match s.after (s.cpu.runFrame s.host s.speed) with
    | (.error (.breakpointHit addr next), s) =>
      (.ok (), s.note ("Breakpoint hit: " ++ Align.right 3 (Hex.lower 0 addr.toNat) ++
        " (" ++ Align.right 4 (Hex.lower 0 next.toNat) ++ ")"))
    | other => other

/-- The title of the window. The rate of frames in it is a matter of time and stands as a letter. -/
def title (s : Session) : String :=
  if s.cpu.flags.paused then "Pipit ⏸"
  else "Pipit ▶ N" ++ if s.cpu.isBeeping then " ♪" else ""

/-- Sets the title and, where no picture was shown in this frame, lets the window see to itself.
False once the window is closed. -/
def finishFrame (s : Session) : Bool × Session :=
  let s := { s with host.window := s.host.window.setTitle s.title }
  if !s.host.window.isOpen then (false, s)
  else if s.host.presented then (true, { s with host.presented := false })
  else (true, { s with host.window := s.host.window.update })

/-- One turn of the loop: `none` when the session is over, else how the turn ended. -/
def next (s : Session) : Option (Except Error Unit) × Session :=
  match s.readKeys with
  | (.quit, s) => (none, s)
  | (.fail e, s) => (some (.error e), s)
  | (.goOn, s) =>
    match s.runInstructions with
    | (.error e, s) => (some (.error e), s)
    | (.ok (), s) =>
      match s.finishFrame with
      | (false, s) => (none, s)
      | (true, s) => (some (.ok ()), s)

/-- Turns the loop until it ends by itself, by an error or after a number of turns. -/
def loop : Nat → Session → Session
  | 0, s => s
  | n + 1, s =>
    match s.next with
    | (none, s) => s
    | (some (.error e), s) => s.note (Ansi.alarm e.message)
    | (some (.ok ()), s) => loop n s

/-- The script closes the window one turn after its last moment, at the latest. -/
def play (s : Session) : Session := loop (s.host.window.coming.length + 1) s

end Chip8.Session
