import Chip8.Cpu.Tick

/-! Ticks in a row, and what a host that shows sixty pictures a second asks for: one frame, or one
instruction. -/

namespace Chip8.Cpu

variable {σ : Type} [Host σ]

/-- Ticks until a number of them are made or one returns an error, after lines written before. -/
def ticks : Nat → Cpu → σ → Array String → Run σ
  | 0, cpu, host, trace => ⟨cpu, host, trace, .ok ()⟩
  | n + 1, cpu, host, trace =>
    match cpu.tick host with
    | ⟨cpu, host, lines, .ok ()⟩ => ticks n cpu host (trace ++ lines)
    | ⟨cpu, host, lines, .error e⟩ => ⟨cpu, host, trace ++ lines, .error e⟩

/-- Hands the screen to the host if it has changed. A host that fails comes before the result of the
run so far. -/
def present (run : Run σ) : Run σ :=
  if run.cpu.flags.dirty then
    match run with
    | ⟨cpu, host, trace, result⟩ =>
      let cpu := { cpu with flags.dirty := false }
      match Host.present host with
      | (.ok (), host) => ⟨cpu, host, trace, result⟩
      | (.error e, host) => ⟨cpu, host, trace, .error e⟩
  else run

/-- Ends with an error that is no breakpoint. -/
def faulted (run : Run σ) : Bool :=
  match run.result with
  | .ok () => false
  | .error e => !e.isBreakpoint

/-- One frame: `steps` ticks, then the timers, then the screen. A breakpoint ends the ticks early
and the frame goes on; a fault ends the frame at once. The timers stand still if the frame began in
a pause. -/
def runFrame (cpu : Cpu) (host : σ) (steps : Nat) : Run σ :=
  let running := !cpu.flags.paused
  let run := ticks steps cpu host #[]
  if faulted run then run
  else present (if running then { run with cpu := run.cpu.runTimers } else run)

/-- One tick, also in a pause, which goes on afterwards; then the screen. A fault leaves the screen
to a later frame. -/
def stepOnce (cpu : Cpu) (host : σ) : Run σ :=
  let paused := cpu.flags.paused
  let run := { cpu with flags.paused := false }.tick host
  let run := { run with cpu.flags.paused := run.cpu.flags.paused || paused }
  if faulted run then run else present run

end Chip8.Cpu
