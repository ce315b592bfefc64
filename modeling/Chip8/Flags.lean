import Chip8.Mode

/-! The switches of a machine that are no part of what its programs see. -/

namespace Chip8

structure Flags where
  /-- Each executed instruction is written out. -/
  tracing : Bool
  /-- Ticks do nothing. -/
  paused : Bool
  /-- An instruction waits for a key. -/
  awaitingKey : Bool
  /-- The screen has changed since it was presented. -/
  dirty : Bool
  dialect : Dialect
  /-- The cycle counter also runs during a pause. -/
  countPaused : Bool
  deriving DecidableEq, Ord

namespace Flags

def none : Flags := ⟨false, false, false, false, .uniform false, false⟩

def toggleTracing (f : Flags) : Flags := { f with tracing := !f.tracing }

def togglePaused (f : Flags) : Flags := { f with paused := !f.paused }

def inspect (f : Flags) : String :=
  Inspect.record "Flags" [("debug", Inspect.bool f.tracing), ("pause", Inspect.bool f.paused),
    ("keypause", Inspect.bool f.awaitingKey), ("dirty", Inspect.bool f.dirty),
    ("quirks", f.dialect.inspect), ("monotonic", Inspect.bool f.countPaused)]

end Flags

end Chip8
