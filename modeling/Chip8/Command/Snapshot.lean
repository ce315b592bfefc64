import Chip8.Command.Report
import Chip8.Cpu.Frame
import Chip8.Cpu.Text
import Chip8.Headless
import Chip8.Options.Value
import Chip8.Screen.Picture

/-! The command that runs a program without a window and prints the screen at the end. -/

namespace Chip8.Snapshot

structure Settings where
  file : Option String
  help : Bool
  frames : Nat
  speed : Nat
  mode : Option Mode
  seed : Option UInt64
  dump : Bool

def commandLine : Options.CommandLine Settings where
  initial := ⟨none, false, 60, 10, none, none, false⟩
  free := ⟨"file", "Load a ROM to run", fun s f => { s with file := some f }, (·.file.isSome)⟩
  options := [
    Options.flag 'h' "help" "Show help text" ({ · with help := true }),
    Options.value 'f' "frames" "FRAMES" "Number of frames to run for." (some "60")
      Options.number ({ · with frames := · }),
    Options.value 's' "speed" "SPEED" "Set the instructions-per-frame rate." (some "10")
      Options.number ({ · with speed := · }),
    Options.value 'm' "mode" "MODE" "Run in (Chip8, Cosmac) mode." none
      Options.mode (fun s m => { s with mode := some m }),
    Options.value 'S' "seed" "SEED" "Seed the random number generator." none
      Options.seed (fun s n => { s with seed := some n }),
    Options.flag 'd' "dump" "Print the CPU state after the run." ({ · with dump := true })]
  wantsHelp := (·.help)

/-- Where a run came to: the processor, the host, and what was noted at its end. -/
structure Result where
  cpu : Cpu
  host : Headless
  notes : String

def noteError (frame : Nat) (e : Error) : String :=
  Ansi.alarm ("frame " ++ frame.repr ++ ": " ++ e.message) ++ "\n"

def noteKey (frame : Nat) : String :=
  Ansi.coloured .yellow ("frame " ++ frame.repr ++ ": waiting for a key") ++ "\n"

/-- Runs frames until their number is reached, one ends with an error, or one ends waiting for a
key, which nobody will press. -/
def runFrames (speed : Nat) : (left frame : Nat) → Cpu → Headless → Result
  | 0, _, cpu, host => ⟨cpu, host, ""⟩
  | left + 1, frame, cpu, host =>
    match cpu.runFrame host speed with
    | ⟨cpu, host, _, .error e⟩ => ⟨cpu, host, noteError frame e⟩
    | ⟨cpu, host, _, .ok ()⟩ =>
      if cpu.flags.awaitingKey then ⟨cpu, host, noteKey frame⟩
      else runFrames speed left (frame + 1) cpu host

/-- The dialect of the mode that is asked for, or of the newer machine. -/
def Settings.flags (s : Settings) : Flags :=
  { Flags.none with dialect := (s.mode.getD .chip8).dialect }

def print (s : Settings) (r : Result) : String :=
  r.host.screen.print ++ if s.dump then r.cpu.dump else ""

/-- Random bytes come from the seed, or from `unseeded` where there is none. -/
def run (program : String) (arguments : List String) (read : ReadFile) (unseeded : Entropy) :
    Report :=
  match commandLine.settings program arguments with
  | .error report => report
  | .ok s =>
    match read.contents (s.file.getD "") >>= (Cpu.ofProgram · [] s.flags) with
    | .error e => .ofError e
    | .ok cpu =>
      let entropy := (s.seed.map Entropy.seeded).getD unseeded
      let r := runFrames s.speed s.frames 0 cpu (.ofEntropy entropy)
      .success (print s r) r.notes

end Chip8.Snapshot
