import Chip8.Command.Report
import Chip8.Entropy.Seeded
import Chip8.Options.Value
import Chip8.Session.Loop

/-! The command that plays a program in a window. -/

namespace Chip8.Play

structure Settings where
  file : Option String
  help : Bool
  debug : Bool
  pause : Bool
  speed : Nat
  mode : Option Mode
  vfReset : Bool
  memory : Bool
  shift : Bool
  breakpoints : List UInt16
  seed : Option UInt64
  frameRate : Nat

def commandLine : Options.CommandLine Settings where
  initial := ⟨none, false, false, false, 10, none, false, false, false, [], none, 60⟩
  free := ⟨"file", "Load a ROM to run on Pipit.", fun s f => { s with file := some f },
    (·.file.isSome)⟩
  options := [
    Options.flag 'h' "help" "Print this help message." ({ · with help := true }),
    Options.flag 'd' "debug" "Enable debug mode at startup." ({ · with debug := true }),
    Options.flag 'p' "pause" "Enable pause mode at startup." ({ · with pause := true }),
    Options.value 's' "speed" "SPEED" "Set the instructions-per-frame rate." (some "10")
      Options.number ({ · with speed := · }),
    Options.value 'm' "mode" "MODE" "Run in (Chip8, Cosmac) mode." none
      Options.mode (fun s m => { s with mode := some m }),
    Options.flag 'z' "vfreset" "Toggle setting vF to 0 after a bitwise operation."
      ({ · with vfReset := true }),
    Options.flag 'c' "memory"
      "Toggle Cosmac VIP style DMA instructions, which leave I past the end."
      ({ · with memory := true }),
    Options.flag 'v' "shift" "Toggle Cosmac VIP style bit-shifts, which shift vY into vX."
      ({ · with shift := true }),
    Options.value 'b' "break" "BP" "Set breakpoints for the emulator to stop at." none
      Options.address (fun s a => { s with breakpoints := s.breakpoints ++ [a] }),
    Options.value 'S' "seed" "SEED" "Seed the random number generator." none
      Options.seed (fun s n => { s with seed := some n }),
    Options.value 'f' "frame-rate" "FR" "Set the target framerate." (some "60")
      Options.number ({ · with frameRate := · })]
  wantsHelp := (·.help)

/-- The dialect of the mode, with each of its decisions turned over where that is asked for. -/
def Settings.dialect (s : Settings) : Dialect :=
  let d := (s.mode.getD .chip8).dialect
  ⟨d.shiftFromY ^^ s.shift, d.passBlocks ^^ s.memory, d.clearFlag ^^ s.vfReset⟩

def Settings.flags (s : Settings) : Flags :=
  { Flags.none with tracing := s.debug, paused := s.pause, dialect := s.dialect }

/-- What the program's user and display will do: an open window with its script, or a display that
cannot open one. -/
structure Display where
  script : List Moment
  failure : Option String

def windowTitle : String := "Pipit"

/-- A report, all that was asked of the window, and the files that were written. -/
structure Played where
  report : Report
  requests : Array Request
  files : Directory

/-- A report of a command that ended before it asked for a window. -/
def Played.early (report : Report) : Played := ⟨report, #[], .empty⟩

/-- A session on a window that has just been opened. Random bytes come from the seed, as `seeded`
makes them, or from `unseeded` where there is none. -/
def newSession (seeded : UInt64 → Entropy) (s : Settings) (cpu : Cpu) (window : Window)
    (unseeded : Entropy) : Session where
  cpu := cpu
  host := .ofWindow window ((s.seed.map seeded).getD unseeded)
  speed := s.speed
  rom := s.file.getD ""
  output := ""
  notes := ""
  files := .empty

def run (program : String) (arguments : List String) (read : ReadFile) (display : Display)
    (unseeded : Entropy) : Played :=
  match commandLine.settings program arguments with
  | .error report => .early report
  | .ok s =>
    match read.contents (s.file.getD "") >>= (Cpu.ofProgram · s.breakpoints s.flags) with
    | .error e => .early (.ofError e)
    | .ok cpu =>
      let window :=
        Window.opened windowTitle Screen.standardWidth Screen.standardHeight display.script
      match display.failure with
      | some reason => ⟨.ofError (.window .create reason), window.requests, .empty⟩
      | none =>
        let session := (newSession Entropy.seeded s cpu window unseeded).play
        ⟨.success session.output session.notes, session.host.window.requests, session.files⟩

end Chip8.Play
