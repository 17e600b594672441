import BillDesk.CommandLine.Usage

/-!
# Reading arguments

A command line has levels: each command opens one, with flags, options, positional parameters and
commands of its own. The arguments are read from left to right.

* A command name opens the next level, which reads all that follows. A level with commands also
  knows the command `help`, and every level knows `--help` and `-h`.
* `--name` is a flag or an option. The value of an option is attached by an equals sign, or is the
  next argument, unless that one begins with a dash.
* Everything else is the value of the next parameter. After `--` nothing else is left.

A value is taken only when the next argument is met, or none is left, and only then it is checked.
So the first fault from the left is reported, with one exception: an argument that is unknown, or a
command that fails at its own level, is reported before a fault of the value that stands before it.

Options that were not given take their value from the environment.
-/

namespace BillDesk.CommandLine

/-- A named argument that takes a value. -/
structure Parameter where
  name : String
  kind : ValueKind := .text
  /-- The environment variable that stands in for the argument. -/
  environment : Option String := none

/-- A level of a command line whose arguments say an `α`. -/
structure Level (α : Type) where
  flags : List String := []
  options : List Parameter := []
  parameters : List Parameter := []
  commands : List (String × Level α) := []
  /-- The level can be asked for the version. -/
  versioned : Bool := false
  /-- What the arguments of a level without commands say. -/
  build : Given → Except UsageError α

/-- How far a level has been read. -/
structure Reading where
  given : Given := []
  /-- The argument that was met last, and its value if it was met, too. -/
  pending : Option (Parameter × Option String) := none
  /-- Only parameters are left. -/
  trailing : Bool := false
  /-- How many parameters were met. -/
  position : Nat := 0

namespace Reading

/-- The option that was met last has no value yet. -/
def awaitsValue (r : Reading) : Bool := r.pending.any fun p => p.2.isNone

/-- Takes an argument, once. -/
def take (r : Reading) (name value : String) : Except UsageError Reading :=
  if r.given.has name then .error .repeatedArgument
  else .ok { r with given := r.given ++ [(name, value)], pending := none }

/-- Takes a value after checking it. -/
def takeChecked (r : Reading) (p : Parameter) (value : String) : Except UsageError Reading := do
  let r ← r.take p.name value
  p.kind.check value
  return r

/-- Takes what is pending. -/
def settle (r : Reading) : Except UsageError Reading :=
  match r.pending with
  | none => .ok r
  | some (_, none) => .error .invalidValue
  | some (p, some value) => r.takeChecked p value

/-- Takes the values of the environment for what was not given. -/
def complete (environment : String → Option String) :
    Reading → List Parameter → Except UsageError Reading
  | r, [] => .ok r
  | r, p :: ps =>
      match p.environment.bind environment with
      | none => complete environment r ps
      | some value =>
          if r.given.has p.name then complete environment r ps
          else do complete environment (← r.takeChecked p value) ps

end Reading

/-- What an argument means to a level. -/
inductive Step (α : Type) where
  | proceed (reading : Reading)
  | enter (command : Level α)
  /-- Help is wanted for the command that the other arguments name. -/
  | help

namespace Level

variable {α : Type}

def hasCommands (l : Level α) : Bool := !l.commands.isEmpty

/-- The command of that name. -/
def command? (l : Level α) (arg : String) : Option (Step α) :=
  if l.hasCommands && arg == "help" then some .help
  else (l.commands.lookup arg).map .enter

/-- The value of the next parameter. -/
def readParameter (l : Level α) (r : Reading) (arg : String) : Except UsageError (Step α) :=
  match l.parameters[r.position]? with
  | some p => do
      let r ← r.settle
      return .proceed { r with pending := some (p, some arg), position := r.position + 1 }
  | none =>
      if r.trailing && (l.command? arg).isSome then .error .unknownArgument
      else if l.hasCommands then .error .unknownCommand
      else .error .unknownArgument

/-- Ends the reading to answer a request. -/
def answer (r : Reading) (request : UsageError) : Except UsageError (Step α) := do
  let _ ← r.settle
  throw request

/-- An argument that takes no value: what it does when it is given none. -/
def readSwitch (attached : Option String) (act : Except UsageError (Step α)) :
    Except UsageError (Step α) :=
  if attached.isSome then .error .unexpectedValue else act

/-- An argument that begins with two dashes, with the value attached to it. -/
def readLong (l : Level α) (r : Reading) (name : String) (attached : Option String) :
    Except UsageError (Step α) :=
  if name == "help" then readSwitch attached (answer r .help)
  else if l.versioned && name == "version" then readSwitch attached (answer r .version)
  else if l.flags.contains name then
    readSwitch attached do return .proceed (← (← r.settle).take name "")
  else
    match l.options.find? (·.name == name), attached with
    | some p, some value => do return .proceed (← (← r.settle).takeChecked p value)
    | some p, none => do return .proceed { ← r.settle with pending := some (p, none) }
    | none, _ => .error .unknownArgument

/-- An argument that begins with one dash. -/
def readShort (l : Level α) (r : Reading) (letter : Char) : Except UsageError (Step α) :=
  if letter == 'h' then answer r .help
  else if l.versioned && letter == 'V' then answer r .version
  else .error .unknownArgument

/-- An argument that is no command and stands before `--`. -/
def readArgument (l : Level α) (r : Reading) (arg : String) : Except UsageError (Step α) :=
  match arg.toList with
  | ['-', '-'] => .ok (.proceed { r with trailing := true })
  | '-' :: '-' :: cs =>
      l.readLong r (String.ofList (cs.takeWhile (· != '=')))
        ((cs.dropWhile (· != '=')).tail?.map String.ofList)
  | '-' :: letter :: _ => l.readShort r letter
  | _ =>
      match r.pending with
      | some (p, none) => .ok (.proceed { r with pending := some (p, some arg) })
      | _ => l.readParameter r arg

def step (l : Level α) (r : Reading) (arg : String) : Except UsageError (Step α) :=
  if r.trailing then l.readParameter r arg
  else if r.awaitsValue then l.readArgument r arg
  else
    match l.command? arg with
    | some s => .ok s
    | none => l.readArgument r arg

/-- The answer to `help` with the names of a command. -/
def helpFor (l : Level α) : List String → UsageError
  | [] => .help
  | name :: names =>
      match l.command? name with
      | none => .unknownCommand
      | some .help => if names.isEmpty then .help else .unknownCommand
      | some (.enter command) => command.helpFor names
      | some (.proceed _) => .unknownCommand

/-- What was given at a level when no argument is left. -/
def close (l : Level α) (environment : String → Option String) (r : Reading) :
    Except UsageError Given := do
  let r ← (← r.settle).complete environment l.options
  return r.given

/-- What a level says that no command was given at. -/
def finish (l : Level α) (given : Given) : Except UsageError α :=
  if !l.hasCommands then l.build given
  else if given.isEmpty then .error .helpForMissingCommand
  else .error .missingCommand

/-- Reads the arguments of a level and of the commands below it: all that was given, and what it
says. -/
def read (l : Level α) (environment : String → Option String) :
    Reading → List String → Except UsageError (Given × α)
  | r, [] => do
      let given ← l.close environment r
      return (given, ← l.finish given)
  | r, arg :: rest => do
      match ← l.step r arg with
      | .proceed r => l.read environment r rest
      | .help => throw (l.helpFor rest)
      | .enter command =>
          let (below, a) ← command.read environment {} rest
          return ((← l.close environment r) ++ below, a)

end Level

end BillDesk.CommandLine
