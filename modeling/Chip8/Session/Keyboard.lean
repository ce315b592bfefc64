import Chip8.Session.Basic

/-! What held keys do: those of the keypad go to the keypad, the others are commands, obeyed once
when they go down. -/

namespace Chip8.Session

/-- How the reading of the keyboard goes on. -/
inductive Reply where
  | goOn
  | quit
  | fail (e : Error)
  deriving DecidableEq

def saveScreen (s : Session) : Reply × Session :=
  let name := Screen.fileName s.rom s.cpu.cycle
  match s.files.save name s.host.screen.bytes with
  | .ok files => (.goOn, { s with files }.note ("Saved to " ++ name))
  | .error cause => (.fail (.io cause), s)

def toggleTracing (s : Session) : Session :=
  let s := { s with cpu.flags := s.cpu.flags.toggleTracing }
  s.note (if s.cpu.flags.tracing then "Debug enabled." else "Debug disabled.")

def togglePause (s : Session) : Session :=
  let s := { s with cpu.flags := s.cpu.flags.togglePaused }
  s.note (if s.cpu.flags.paused then "Paused." else "Unpaused.")

def step (s : Session) : Reply × Session :=
  let s := s.note "Step"
  match s.after (s.cpu.stepOnce s.host) with
  | (.ok (), s) => (.goOn, s)
  | (.error e, s) => (.fail e, s)

def addBreakpoint (s : Session) : Session :=
  { s with cpu := s.cpu.addBreakpoint s.cpu.pc }.note
    ("Set breakpoint " ++ Hex.lower 3 s.cpu.pc.toNat ++ ".")

def removeBreakpoint (s : Session) : Session :=
  { s with cpu := s.cpu.removeBreakpoint s.cpu.pc }.note
    ("Unset breakpoint " ++ Hex.lower 3 s.cpu.pc.toNat ++ ".")

/-- Starts the program again, on a clear screen that is not shown yet. -/
def restart (s : Session) : Session :=
  { s with cpu := s.cpu.restart, host := s.host.clear }.note
    ("Soft reset state.cpu " ++ Hex.lower 3 s.cpu.pc.toNat)

def reset (s : Session) : Session :=
  { s with cpu := s.cpu.reset, host := s.host.clear }.note "Reset state.cpu"

def obey (s : Session) : Key.Command → Reply × Session
  | .dump => (.goOn, s.write s.cpu.dump)
  | .printScreen => (.goOn, s.write s.host.screen.print)
  | .saveScreen => s.saveScreen
  | .toggleTracing => (.goOn, s.toggleTracing)
  | .togglePause => (.goOn, s.togglePause)
  | .step => s.step
  | .addBreakpoint => (.goOn, s.addBreakpoint)
  | .removeBreakpoint => (.goOn, s.removeBreakpoint)
  | .restart => (.goOn, s.restart)
  | .reset => (.goOn, s.reset)
  | .quit => (.quit, s)

/-- Passes a key to the keypad, where it is one of its keys. -/
def turnKey (change : Keypad → Nat → Except Error Bool × Keypad) (s : Session) (key : Key) :
    Reply × Session :=
  match key.hex? with
  | none => (.goOn, s)
  | some n =>
    match change s.host.keypad n with
    | (.ok _, keypad) => (.goOn, { s with host.keypad := keypad })
    | (.error e, keypad) => (.fail e, { s with host.keypad := keypad })

def release (s : Session) (key : Key) : Reply × Session := s.turnKey Keypad.release key

/-- A key goes down: a command, or a key of the keypad, or nothing. -/
def press (s : Session) (key : Key) : Reply × Session :=
  match key.command? with
  | some command => s.obey command
  | none => s.turnKey Keypad.press key

/-- Handles keys one after the other, as long as the replies allow. -/
def handleAll (handle : Session → Key → Reply × Session) (s : Session) :
    List Key → Reply × Session
  | [] => (.goOn, s)
  | key :: keys =>
    match handle s key with
    | (.goOn, s) => handleAll handle s keys
    | stopped => stopped

/-- Reads the keyboard: keys that went up, then keys that went down. The keyboard counts as read
only if every key was handled. -/
def readKeys (s : Session) : Reply × Session :=
  let (keys, window) := s.host.window.readKeys
  let s := { s with host.window := window }
  let held := s.host.keyboard
  match handleAll release s (held.filter (· ∉ keys)) with
  | (.goOn, s) =>
    match handleAll press s (keys.filter (· ∉ held)) with
    | (.goOn, s) => (.goOn, { s with host.keyboard := keys })
    | stopped => stopped
  | stopped => stopped

end Chip8.Session
