import DeskConfig.Load

/-!
The command line: one command, and options that may stand before or after it. An
option after the command wins over the same option before it. A value that stands
apart from its option is looked at only when the next option comes or the arguments
end, so of two faults it is often the later one that is reported.
-/

namespace DeskConfig

inductive Command where
  | check
  | dump
  | version
deriving DecidableEq, Repr

def Command.ofName? : String → Option Command
  | "check" => some .check
  | "dump" => some .dump
  | "version" => some .version
  | _ => none

/-- Why a command line does not run anything. -/
inductive UsageError where
  | help
  | version
  | nothingGiven
  | noCommand
  | unknownCommand
  | unknownArgument
  | missingValue
  | badValue
  | repeated
  | uselessValue
deriving DecidableEq, Repr

/-- The options that take a value. -/
inductive ValueOption where
  | config
  | fallback
  | includeDepth
deriving DecidableEq, Repr

/-- What an option's name stands for. -/
inductive Flag where
  | verbose
  | help
  | version
  | value (option : ValueOption)
deriving DecidableEq, Repr

namespace Flag

/-- The version can only be asked for before the command. -/
def ofLong? (beforeCommand : Bool) : List Char → Option Flag := fun name =>
  match String.ofList name with
  | "verbose" => some .verbose
  | "help" => some .help
  | "version" => if beforeCommand then some .version else none
  | "config" => some (.value .config)
  | "fallback" => some (.value .fallback)
  | "max-include-depth" => some (.value .includeDepth)
  | _ => none

def ofShort? (beforeCommand : Bool) : Char → Option Flag
  | 'v' => some .verbose
  | 'h' => some .help
  | 'V' => if beforeCommand then some .version else none
  | 'c' => some (.value .config)
  | _ => none

end Flag

/-- What was given on one side of the command. An option whose value has not been
looked at is pending; without the value, it awaits it. -/
structure Given where
  verbose : Bool := false
  config : Option String := none
  fallback : Option String := none
  includeDepth : Option Nat := none
  pending : Option (ValueOption × Option String) := none
deriving DecidableEq, Repr

namespace Given

def isEmpty (g : Given) : Bool :=
  !g.verbose && g.config.isNone && g.fallback.isNone && g.includeDepth.isNone

/-- Paths are not empty. -/
def path (value : String) : Except UsageError (Option String) :=
  if value.isEmpty then .error .missingValue else .ok (some value)

def greatestDepth : Int := 64

def depth (value : String) : Except UsageError (Option Nat) :=
  match Text.integerIn? 1 greatestDepth value.toList with
  | some n => .ok (some n.toNat)
  | none => .error .badValue

/-- Sets an option. On one side of the command no option may be given twice. -/
def store (g : Given) (option : ValueOption) (value : String) : Except UsageError Given :=
  match option with
  | .config =>
    if g.config.isSome then .error .repeated
    else do return { g with config := ← path value }
  | .fallback =>
    if g.fallback.isSome then .error .repeated
    else do return { g with fallback := ← path value }
  | .includeDepth =>
    if g.includeDepth.isSome then .error .repeated
    else do return { g with includeDepth := ← depth value }

/-- Looks at the pending option. -/
def settle (g : Given) : Except UsageError Given :=
  match g.pending with
  | none => .ok g
  | some (_, none) => .error .missingValue
  | some (option, some value) => { g with pending := none }.store option value

def awaits? (g : Given) : Option ValueOption :=
  match g.pending with
  | some (option, none) => some option
  | _ => none

/-- A flag without a value attached to it. -/
def flag (g : Given) (f : Flag) : Except UsageError Given := do
  let g ← g.settle
  match f with
  | .verbose => if g.verbose then .error .repeated else .ok { g with verbose := true }
  | .help => .error .help
  | .version => .error .version
  | .value option => .ok { g with pending := some (option, none) }

def attached (g : Given) (option : ValueOption) (value : List Char) :
    Except UsageError Given := do
  (← g.settle).store option (String.ofList value)

def long (g : Given) (beforeCommand : Bool) (name : List Char) (value : Option (List Char)) :
    Except UsageError Given :=
  match Flag.ofLong? beforeCommand name, value with
  | none, _ => .error .unknownArgument
  | some (.value option), some value => g.attached option value
  | some _, some _ => .error .uselessValue
  | some f, none => g.flag f

/-- Letters after one dash. The letters after one that takes a value are the value,
an equals sign in front of it left out. -/
def short (g : Given) (beforeCommand : Bool) : List Char → Except UsageError Given
  | [] => .ok g
  | c :: cs =>
    match Flag.ofShort? beforeCommand c, cs with
    | none, _ => .error .unknownArgument
    | some (.value option), '=' :: value => g.attached option value
    | some (.value option), d :: value => g.attached option (d :: value)
    | some f, cs => do short (← g.flag f) beforeCommand cs

end Given

/-- How an argument looks. -/
inductive Word where
  | separator
  | long (name : List Char) (value : Option (List Char))
  | short (letters : List Char)
  | plain

def splitEquals : List Char → List Char × Option (List Char)
  | [] => ([], none)
  | c :: cs =>
    if c = '=' then ([], some cs)
    else
      let (name, value) := splitEquals cs
      (c :: name, value)

def Word.ofArgument (arg : String) : Word :=
  match arg.toList with
  | ['-', '-'] => .separator
  | '-' :: '-' :: cs =>
    let (name, value) := splitEquals cs
    .long name value
  | '-' :: c :: cs => .short (c :: cs)
  | _ => .plain

/-- The arguments after the command. -/
def afterCommand (g : Given) : List String → Except UsageError Given
  | [] => g.settle
  | arg :: args =>
    match Word.ofArgument arg with
    | .separator => if args.isEmpty then g.settle else .error .unknownArgument
    | .long name value => do afterCommand (← g.long false name value) args
    | .short letters => do afterCommand (← g.short false letters) args
    | .plain =>
      match g.awaits? with
      | some option => afterCommand { g with pending := some (option, some arg) } args
      | none => .error .unknownArgument

structure Invocation where
  command : Command
  verbose : Bool
  config : Option String
  fallback : Option String
  includeDepth : Option Nat
deriving DecidableEq, Repr

def Invocation.ofSides (command : Command) (before after : Given) : Invocation where
  command := command
  verbose := before.verbose || after.verbose
  config := after.config.or before.config
  fallback := after.fallback.or before.fallback
  includeDepth := after.includeDepth.or before.includeDepth

/-- The name of the command that shows help. It takes no options, only names of
commands, and of those at most one. -/
def helpName : String := "help"

def isCommandName (arg : String) : Bool := arg == helpName || (Command.ofName? arg).isSome

def helpOn : List String → UsageError
  | [] => .help
  | [arg] => if isCommandName arg then .help else .unknownCommand
  | _ => .unknownCommand

def withoutCommand (g : Given) : Except UsageError Invocation := do
  let g ← g.settle
  if g.isEmpty then .error .nothingGiven else .error .noCommand

/-- The arguments up to the command, and on from there. -/
def beforeCommand (g : Given) : List String → Except UsageError Invocation
  | [] => withoutCommand g
  | arg :: args =>
    match g.awaits?, Word.ofArgument arg with
    | _, .separator =>
      match args with
      | [] => withoutCommand g
      | arg :: _ => .error (if isCommandName arg then .unknownArgument else .unknownCommand)
    | _, .long name value => do beforeCommand (← g.long true name value) args
    | _, .short letters => do beforeCommand (← g.short true letters) args
    | some option, .plain => beforeCommand { g with pending := some (option, some arg) } args
    | none, .plain =>
      if arg == helpName then .error (helpOn args)
      else
        match Command.ofName? arg with
        | none => .error .unknownCommand
        | some command => do
          let after ← afterCommand {} args
          return .ofSides command (← g.settle) after

def Invocation.parse (args : List String) : Except UsageError Invocation := beforeCommand {} args

/-- Options of the command line win over the environment. -/
def Invocation.options (env : Environment) (i : Invocation) : Options :=
  let o := Options.ofEnvironment env
  { o with
    configPath := i.config.getD o.configPath
    fallbackPath := i.fallback.getD o.fallbackPath
    includeDepth := i.includeDepth.getD o.includeDepth }

end DeskConfig
