import Chip8.Options.Basic

/-! Reading a command line. An option is `--name VALUE`, `--name=VALUE`, `-n VALUE` or `-nVALUE`;
letters without arguments may be joined; `--` ends the options, and `-` alone is a free argument.
The first error from the left is the one reported. -/

namespace Chip8.Options

inductive ParseError where
  | unrecognizedOption (option : String)
  | missingArgument (option : String)
  | invalidArgument (option reason : String)
  | needlessArgument (option : String)
  | unexpectedFree (argument : String)
  | missingFree
  deriving DecidableEq

def ParseError.message : ParseError → String
  | .unrecognizedOption option => "unrecognized option `" ++ option ++ "`"
  | .missingArgument option => "missing argument to option `" ++ option ++ "`"
  | .invalidArgument option reason =>
    "invalid argument to option `" ++ option ++ "`: " ++ reason
  | .needlessArgument option => "option `" ++ option ++ "` does not accept an argument"
  | .unexpectedFree argument => "unexpected free argument `" ++ argument ++ "`"
  | .missingFree => "missing required free argument"

variable {α : Type}

namespace CommandLine

variable (c : CommandLine α)

def short? (letter : Char) : Option (Declaration α) := c.options.find? (·.short == letter)

def long? (name : String) : Option (Declaration α) := c.options.find? (·.long == name)

def addFree (settings : α) (argument : String) : Except ParseError α :=
  if c.free.isSet settings then .error (.unexpectedFree argument)
  else .ok (c.free.set settings argument)

end CommandLine

/-- An option that still wants its argument. -/
structure Pending (α : Type) where
  /-- As it was given, for messages. -/
  option : String
  set : α → String → Except String α

/-- The settings after an option has got its argument. -/
def Pending.take (p : Pending α) (settings : α) (value : String) : Except ParseError α :=
  (p.set settings value).mapError (.invalidArgument p.option)

/-- The settings after an argument, and the option that wants the next one. -/
abbrev Progress (α : Type) := Except ParseError (α × Option (Pending α))

/-- An option gets the argument attached to it, or waits for the next one. -/
def Pending.supply (p : Pending α) (settings : α) : Option String → Progress α
  | none => .ok (settings, some p)
  | some value => (p.take settings value).map (·, none)

/-- Splits `name=value` at the first equals sign. -/
def splitValue (chars : List Char) : List Char × Option (List Char) :=
  match chars.span (· ≠ '=') with
  | (name, []) => (name, none)
  | (name, _ :: value) => (name, some value)

/-- Reads joined letters. The letter of an option with an argument takes the rest, if any. -/
def parseLetters (c : CommandLine α) (settings : α) : List Char → Progress α
  | [] => .ok (settings, none)
  | letter :: rest =>
    let option := "-" ++ letter.toString
    match c.short? letter with
    | none => .error (.unrecognizedOption option)
    | some d =>
      match d.action with
      | .flag set => parseLetters c (set settings) rest
      | .argument set =>
        Pending.supply ⟨option, set⟩ settings
          (if rest.isEmpty then none else some (String.ofList rest))

/-- Reads a long option with the value attached to it, if any. -/
def parseLong (c : CommandLine α) (settings : α) (name : String) (value : Option String) :
    Progress α :=
  let option := "--" ++ name
  match c.long? name with
  | none => .error (.unrecognizedOption option)
  | some d =>
    match d.action, value with
    | .flag set, none => .ok (set settings, none)
    | .flag _, some _ => .error (.needlessArgument option)
    | .argument set, value => Pending.supply ⟨option, set⟩ settings value

/-- Reads an argument that starts with a dash and is not `-` or `--`. -/
def parseOption (c : CommandLine α) (settings : α) : List Char → Progress α
  | '-' :: '-' :: rest =>
    let (name, value) := splitValue rest
    parseLong c settings (String.ofList name) (value.map String.ofList)
  | chars => parseLetters c settings (chars.drop 1)

/-- Reads arguments after `--`. -/
def parseFree (c : CommandLine α) : α → List String → Except ParseError α
  | settings, [] => .ok settings
  | settings, a :: rest =>
    match c.addFree settings a with
    | .ok settings => parseFree c settings rest
    | .error e => .error e

/-- Reads arguments from the left. -/
def parseAll (c : CommandLine α) : α → List String → Except ParseError α
  | settings, [] => .ok settings
  | settings, a :: rest =>
    if a = "--" then parseFree c settings rest
    else if a = "-" ∨ a.toList.head? ≠ some '-' then
      match c.addFree settings a with
      | .ok settings => parseAll c settings rest
      | .error e => .error e
    else
      match parseOption c settings a.toList, rest with
      | .error e, _ => .error e
      | .ok (settings, none), rest => parseAll c settings rest
      | .ok (_, some pending), [] => .error (.missingArgument pending.option)
      | .ok (settings, some pending), value :: rest =>
        match pending.take settings value with
        | .ok settings => parseAll c settings rest
        | .error e => .error e

/-- Reads a whole command line. The free argument may be missing where help is asked for. -/
def CommandLine.parse (c : CommandLine α) (arguments : List String) : Except ParseError α :=
  match parseAll c c.initial arguments with
  | .error e => .error e
  | .ok settings =>
    if c.free.isSet settings || c.wantsHelp settings then .ok settings else .error .missingFree

end Chip8.Options
