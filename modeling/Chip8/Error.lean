import Chip8.Text.Hex
import Chip8.Text.Inspect

/-! What can go wrong, by cause, with the wording of each cause in one place. -/

namespace Chip8

/-- What the operating system can answer when a file is asked for. -/
inductive SystemError where
  | notFound
  | notADirectory
  | isADirectory
  | nameTooLong
  deriving DecidableEq

namespace SystemError

def code : SystemError → Nat
  | .notFound => 2
  | .notADirectory => 20
  | .isADirectory => 21
  | .nameTooLong => 36

def kind : SystemError → String
  | .notFound => "NotFound"
  | .notADirectory => "NotADirectory"
  | .isADirectory => "IsADirectory"
  | .nameTooLong => "InvalidFilename"

def text : SystemError → String
  | .notFound => "No such file or directory"
  | .notADirectory => "Not a directory"
  | .isADirectory => "Is a directory"
  | .nameTooLong => "File name too long"

end SystemError

/-- Trouble with the outside: an answer of the operating system, a name that it cannot even be asked
for, or a host that has only a text. -/
inductive IoCause where
  | system (error : SystemError)
  | zeroInName
  | other (text : String)
  deriving DecidableEq

namespace IoCause

/-- Names end at their first zero for the operating system. -/
def zeroInNameText : String := "file name contained an unexpected NUL byte"

def message : IoCause → String
  | .system e => e.text ++ " (os error " ++ e.code.repr ++ ")"
  | .zeroInName => zeroInNameText
  | .other text => text

def inspect : IoCause → String
  | .system e =>
    Inspect.record "Os"
      [("code", e.code.repr), ("kind", e.kind), ("message", Inspect.quoted e.text)]
  | .zeroInName =>
    Inspect.record "Error" [("kind", "InvalidInput"), ("message", Inspect.quoted zeroInNameText)]
  | .other text => Inspect.record "Custom" [("kind", "Other"), ("error", Inspect.quoted text)]

end IoCause

/-- What a window can fail to do. -/
inductive WindowTask where
  | create
  | update
  deriving DecidableEq

def WindowTask.failure : WindowTask → String
  | .create => "Failed to create window"
  | .update => "Failed to Update"

inductive Error where
  | breakpointHit (addr next : UInt16)
  | unimplementedInstruction (addr word : UInt16)
  | stackOverflow (addr : UInt16)
  | stackUnderflow (addr : UInt16)
  | programTooLarge (len max : Nat)
  | invalidKey (key : Nat)
  | invalidRegister (reg : Nat)
  | invalidMode (mode : String)
  | io (cause : IoCause)
  | window (task : WindowTask) (reason : String)
  deriving DecidableEq

namespace Error

/-- A breakpoint stops the machine without being a fault of its program. -/
def isBreakpoint : Error → Bool
  | .breakpointHit .. => true
  | _ => false

/-- The sentence for a user. -/
def message : Error → String
  | .breakpointHit addr next =>
    "breakpoint hit: " ++ Hex.lower 3 addr.toNat ++ " (" ++ Hex.lower 4 next.toNat ++ ")"
  | .unimplementedInstruction addr word =>
    "opcode " ++ Hex.lower 4 word.toNat ++ " at " ++ Hex.lower 3 addr.toNat ++ " not recognized"
  | .stackOverflow addr =>
    "stack overflow: call at " ++ Hex.lower 3 addr.toNat ++ " exceeds 16 levels"
  | .stackUnderflow addr =>
    "stack underflow: return at " ++ Hex.lower 3 addr.toNat ++ " with empty stack"
  | .programTooLarge len max =>
    s!"program is {len} bytes, but only {max} bytes fit in memory"
  | .invalidKey key => "tried to press key " ++ Hex.upper 0 key ++ " which does not exist"
  | .invalidRegister reg =>
    "tried to access register v" ++ Hex.upper 0 reg ++ " which does not exist"
  | .invalidMode mode => "no suitable conversion of \"" ++ mode ++ "\" into Mode"
  | .io cause => cause.message
  | .window task _ => task.failure

/-- The record of an error, with its fields. -/
def inspect : Error → String
  | .breakpointHit addr next =>
    Inspect.record "BreakpointHit" [("addr", addr.toNat.repr), ("next", next.toNat.repr)]
  | .unimplementedInstruction addr word =>
    Inspect.record "UnimplementedInstruction" [("addr", addr.toNat.repr), ("word", word.toNat.repr)]
  | .stackOverflow addr => Inspect.record "StackOverflow" [("addr", addr.toNat.repr)]
  | .stackUnderflow addr => Inspect.record "StackUnderflow" [("addr", addr.toNat.repr)]
  | .programTooLarge len max =>
    Inspect.record "ProgramTooLarge" [("len", len.repr), ("max", max.repr)]
  | .invalidKey key => Inspect.record "InvalidKey" [("key", key.repr)]
  | .invalidRegister reg => Inspect.record "InvalidRegister" [("reg", reg.repr)]
  | .invalidMode mode => Inspect.record "InvalidMode" [("mode", Inspect.quoted mode)]
  | .io cause => Inspect.wrapped "IoError" cause.inspect
  | .window task reason =>
    Inspect.wrapped "MinifbError" (task.failure ++ ", " ++ Inspect.quoted reason)

end Error

end Chip8
