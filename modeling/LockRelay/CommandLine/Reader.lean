import LockRelay.CommandLine.Option

/-! Reading the arguments of the program. Arguments are judged from left to right, and what is
wrong first is reported. The value of an option that is an argument of its own is judged when the
next option starts, or at the end; one that is attached to its option is judged at once. Settings
of the program are completed from the environment after the command that follows them was read. -/
namespace LockRelay.CommandLine

inductive UsageError where
  | valueRequired (option : Opt)
  | repeated (option : Opt)
  | invalidValue (value : String) (option : Opt) (fault : Text.NumberFault)
  | unexpected (argument : String)
  | unrecognized (name : String)
  /-- The flag that asks for help was given a value. -/
  | valueOfHelp (value : String)
  | missing (option : Opt)
  | noCommand
  deriving DecidableEq, Repr

def UsageError.messageLines : UsageError → List String
  | .valueRequired option => [s!"a value is required for '{option.display}' but none was supplied"]
  | .repeated option => [s!"the argument '{option.display}' cannot be used multiple times"]
  | .invalidValue value option fault =>
      [s!"invalid value '{value}' for '{option.display}': {fault.message}"]
  | .unexpected argument => [s!"unexpected argument '{argument}' found"]
  | .unrecognized name => [s!"unrecognized subcommand '{name}'"]
  | .valueOfHelp value => [s!"unexpected value '{value}' for '--help' found; no more were expected"]
  | .missing option =>
      ["the following required arguments were not provided:", s!"  {option.display}"]
  | .noCommand =>
      [s!"'{Verb.program.name}' requires a subcommand but one was not provided"]

/-- Why there is nothing to be carried out. -/
inductive Stop where
  /-- Help on a command was asked for. -/
  | help (verb : Verb)
  /-- Nothing at all was asked for. -/
  | nothing
  | wrong (error : UsageError)
  deriving DecidableEq, Repr

inductive Setting where
  | number (n : Nat)
  | text (s : String)
  deriving DecidableEq, Repr

/-- Options and their values. -/
abbrev Settings := List (Opt × Setting)

namespace Settings

def number? (s : Settings) (o : Opt) : Option Nat :=
  match s.lookup o with
  | some (.number n) => some n
  | _ => none

def text? (s : Settings) (o : Opt) : Option String :=
  match s.lookup o with
  | some (.text t) => some t
  | _ => none

end Settings

/-- The setting that a value makes. -/
def judge (o : Opt) (value : String) : Except Stop Setting :=
  if o.isNumeric then
    match Text.readNatural UInt64.size value.toList with
    | .ok n => .ok (.number n)
    | .error fault => .error (.wrong (.invalidValue value o fault))
  else .ok (.text value)

/-- What has been read of a command. -/
structure Progress where
  settings : Settings := []
  /-- An option that is not judged yet, with its value when that has been read. -/
  pending : Option (Opt × Option String) := none

namespace Progress

/-- Takes an option with its value. -/
def set (p : Progress) (o : Opt) (value : String) : Except Stop Progress :=
  if (p.settings.lookup o).isSome then .error (.wrong (.repeated o))
  else
    match judge o value with
    | .ok setting => .ok { p with settings := p.settings ++ [(o, setting)] }
    | .error stop => .error stop

/-- Judges the option that is pending. -/
def resolve (p : Progress) : Except Stop Progress :=
  match p.pending with
  | none => .ok p
  | some (o, none) => .error (.wrong (.valueRequired o))
  | some (o, some value) => { p with pending := none }.set o value

/-- Starts an option, with the value attached to it if there is one. -/
def begin (p : Progress) (o : Opt) (attached : Option String) : Except Stop Progress :=
  match p.resolve with
  | .error stop => .error stop
  | .ok p =>
      match attached with
      | some value => p.set o value
      | none => .ok { p with pending := some (o, none) }

/-- Asks for help, unless what is pending is wrong. -/
def askHelp (p : Progress) (v : Verb) : Stop :=
  match p.resolve with
  | .error stop => stop
  | .ok _ => .help v

end Progress

/-- Splits a text at its first equals sign. -/
def splitEquals (text : List Char) : List Char × Option (List Char) :=
  let name := text.takeWhile (· != '=')
  match text.drop name.length with
  | [] => (name, none)
  | _ :: value => (name, some value)

/-- Reads what follows two dashes. -/
def readLong (v : Verb) (p : Progress) (text : List Char) : Except Stop Progress :=
  let (name, value) := splitEquals text
  let name := String.ofList name
  let value := value.map String.ofList
  match v.byLong? name with
  | some o => p.begin o value
  | none =>
      if name = "help" then
        match value with
        | none => .error (p.askHelp v)
        | some value => .error (.wrong (.valueOfHelp value))
      else .error (.wrong (.unexpected ("--" ++ name)))

/-- The value attached to a letter; an equals sign before it does not belong to it. -/
def attachedValue : List Char → Option String
  | [] => none
  | '=' :: value => some (String.ofList value)
  | value => some (String.ofList value)

/-- Reads what follows one dash, a letter and perhaps its value. -/
def readShort (v : Verb) (p : Progress) (letter : Char) (rest : List Char) : Except Stop Progress :=
  match v.byShort? letter with
  | some o => p.begin o (attachedValue rest)
  | none =>
      if letter = 'h' then .error (p.askHelp v)
      else .error (.wrong (.unexpected (String.ofList ['-', letter])))

/-- An argument that is neither an option nor a value. -/
def stray (v : Verb) (argument : String) : UsageError :=
  if v.verbs.isEmpty then .unexpected argument else .unrecognized argument

/-- Help on the command that a row of names leads to. -/
def helpOn (v : Verb) : List String → Stop
  | [] => .help v
  | name :: names =>
      match v.verb? name with
      | some w => helpOn w names
      | none => .wrong (.unrecognized name)

/-- What is left to be read after a command's own arguments: the command that follows, with its
arguments. -/
abbrev Rest := Option (Verb × List String)

/-- What comes after two dashes alone. No argument is expected there, not even a command. -/
def readTrailing (v : Verb) (p : Progress) : List String → Except Stop (Progress × Rest)
  | [] => .ok (p, none)
  | argument :: _ =>
      .error <| .wrong <|
        if (v.verb? argument).isSome then .unexpected argument else stray v argument

/-- Reads the arguments of a command, up to the command that follows it. -/
def readArguments (v : Verb) (p : Progress) : List String → Except Stop (Progress × Rest)
  | [] => .ok (p, none)
  | argument :: arguments =>
      let next (result : Except Stop Progress) : Except Stop (Progress × Rest) :=
        match result with
        | .error stop => .error stop
        | .ok p => readArguments v p arguments
      let value : Except Stop (Progress × Rest) :=
        match p.pending with
        | some (o, none) => next (.ok { p with pending := some (o, some argument) })
        | _ =>
            match v.verb? argument with
            | some .help => .error (helpOn v arguments)
            | some w => .ok (p, some (w, arguments))
            | none => .error (.wrong (stray v argument))
      match argument.toList with
      | ['-', '-'] => readTrailing v p arguments
      | '-' :: '-' :: text => next (readLong v p text)
      | '-' :: letter :: rest => next (readShort v p letter rest)
      | _ => value

/-- Reads a command that no other follows. -/
def readCommand (v : Verb) (arguments : List String) : Except Stop Settings := do
  let (p, _) ← readArguments v {} arguments
  let p ← p.resolve
  match v.required? with
  | some o =>
      if (p.settings.lookup o).isSome then return p.settings
      else .error (.wrong (.missing o))
  | none => return p.settings

/-- Variables that are set, with their values. -/
abbrev Environment := List (String × String)

/-- Takes the options that are not set from the environment. -/
def complete (environment : Environment) : List Opt → Settings → Except Stop Settings
  | [], settings => .ok settings
  | o :: options, settings =>
      match settings.lookup o, o.envName?.bind fun name => environment.lookup name with
      | none, some value =>
          match judge o value with
          | .ok setting => complete environment options (settings ++ [(o, setting)])
          | .error stop => .error stop
      | _, _ => complete environment options settings

/-- What the program is to do. -/
inductive Order where
  | scan (serial : UInt64) (seconds : Nat)
  | openChannel (serial : UInt64) (message : Option String)
  | activate (endpointId : String)
  deriving DecidableEq, Repr

/-- Seconds that a scan takes if nothing is said about it. -/
def defaultDuration : Nat := 5

/-- The order that a command and its settings make. -/
def Order.make? (v : Verb) (s : Settings) : Option Order :=
  match v with
  | .scan =>
      (s.number? .serial).map fun n =>
        .scan (UInt64.ofNat n) ((s.number? .duration).getD defaultDuration)
  | .openChannel =>
      (s.number? .serial).map fun n => .openChannel (UInt64.ofNat n) (s.text? .message)
  | .activate => (s.text? .endpointId).map .activate
  | .program | .help => none

/-- The settings of the program and the order, if the arguments make sense. -/
def read (environment : Environment) (arguments : List String) :
    Except Stop (Settings × Order) := do
  let (p, rest) ← readArguments .program {} arguments
  let order ← match rest with
    | some (v, arguments) => (Order.make? v <$> readCommand v arguments)
    | none => pure none
  let p ← p.resolve
  let settings ← complete environment Verb.program.options p.settings
  match order with
  | some order => return (settings, order)
  | none => .error (if settings.isEmpty then .nothing else .wrong .noCommand)

end LockRelay.CommandLine
