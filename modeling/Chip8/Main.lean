import Chip8.Command.Listing
import Chip8.Command.Play
import Chip8.Command.Snapshot

/-! The command line: `list`, `shot` and `play`, each with its own options. The window of `play` has
its user on the standard input, a frame a line. -/

namespace Chip8

def usage : String :=
  "Usage: chip8 COMMAND [OPTIONS] FILE\n\nCommands:\n" ++
    "  list  List a program, one instruction a line\n" ++
    "  shot  Run a program and print the screen\n" ++
    "  play  Run a program in a window; each line of input names the keys held in a frame\n"

/-- The error that the operating system numbers so. Some of its calls negate the number. -/
def systemError? (code : UInt32) : Option SystemError :=
  [.notFound, .notADirectory, .isADirectory, .nameTooLong].find? fun e =>
    [code, 0 - code].contains (UInt32.ofNat e.code)

/-- The cause of a failed access to a file. -/
def causeOf (e : IO.Error) : IoCause :=
  let known := match e with
    | .noFileOrDirectory _ code _ => systemError? code
    | .inappropriateType _ code _ => systemError? code
    | .invalidArgument _ code _ => systemError? code
    | _ => none
  (known.map .system).getD (.other (toString e))

/-- Reads the file that the settings name, if they can be read. -/
def fetchFile (path : Option String) : IO ReadFile := do
  match path with
  | none => return fun _ => .error (.system .notFound)
  | some path =>
    try
      let contents ← IO.FS.readBinFile path
      return fun _ => .ok contents.toList
    catch e => return fun _ => .error (causeOf e)

/-- Random bytes that differ from run to run. -/
def freshEntropy : IO Entropy := do
  let bytes ← IO.getRandomBytes 8
  return .seeded (bytes.toList.foldl (fun n b => n * 256 + b.toUInt64) 0)

/-- What the user of a window does, a frame a line. -/
def readScript : IO (List Moment) := do
  return (← (← IO.getStdin).lines).toList.map Moment.ofLine

def writeFiles (d : Directory) : IO Unit := do
  for (name, contents) in d.files do
    IO.FS.writeBinFile name ⟨contents.toArray⟩

def emit (r : Report) : IO UInt32 := do
  (← IO.getStdout).putStr r.output
  (← IO.getStderr).putStr r.notes
  return UInt32.ofNat r.code

def runCommand (arguments : List String) : IO UInt32 := do
  match arguments with
  | "list" :: rest =>
    let settings := (Listing.commandLine.settings "chip8 list" rest).toOption
    let read ← fetchFile (settings.bind (·.file))
    emit (Listing.run "chip8 list" rest read)
  | "shot" :: rest =>
    let settings := (Snapshot.commandLine.settings "chip8 shot" rest).toOption
    let read ← fetchFile (settings.bind (·.file))
    emit (Snapshot.run "chip8 shot" rest read (← freshEntropy))
  | "play" :: rest =>
    let settings := (Play.commandLine.settings "chip8 play" rest).toOption
    let read ← fetchFile (settings.bind (·.file))
    let script ← if settings.isSome then readScript else pure []
    let played := Play.run "chip8 play" rest read ⟨script, none⟩ (← freshEntropy)
    writeFiles played.files
    emit played.report
  | _ => emit ⟨2, "", usage⟩

end Chip8

def main (arguments : List String) : IO UInt32 := Chip8.runCommand arguments
