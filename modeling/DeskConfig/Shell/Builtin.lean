import DeskConfig.Shell.Condition
import DeskConfig.Shell.Declaration
import DeskConfig.Shell.Folder
import DeskConfig.Shell.Printing
import DeskConfig.Shell.Signal

/-!
The commands of the shell that run no others. Each takes its arguments and gives its
status; a mistake in one of the special commands ends the shell.
-/

namespace DeskConfig.Shell

abbrev Builtin := List Text → Act Nat

namespace Act

def statusOfCondition (holds : Bool) : Nat := if holds then 0 else 1

def printFormat (args : List Text) : Act Nat := do
  let (text, status) := printf args
  say text status

def exit (args : List Text) : Act Nat := do
  if !args.isEmpty then
    let n ← countOr 0 args
    modify fun s => { s with kept := some n }
  throw .exit

def returnBack (args : List Text) : Act Nat := do
  let status ← countOr (← get).status args
  modify fun s => { s with skip := some (.back !args.isEmpty) }
  return status

/-- Leaves or goes on with loops, as many as are asked for and are there. -/
def skipLoops (skip : Nat → Skip) (args : List Text) : Act Nat := do
  let n ← countOr 1 args
  if n = 0 then fail
  let s ← get
  if s.loops > 0 then set { s with skip := some (skip (min n s.loops)) }
  return 0

end Act

open Act

/-- The commands by their names. Reading takes no more lines than the bound. -/
def builtins (bound : Nat) : List (String × Builtin) :=
  [(":", fun _ => return 0), ("true", fun _ => return 0), ("false", fun _ => return 1),
    ("echo", fun args => say (echo args) 0), ("printf", printFormat),
    ("test", fun args => statusOfCondition <$> condition false args),
    ("[", fun args => statusOfCondition <$> condition true args),
    ("exit", exit), ("return", returnBack), ("break", skipLoops .leave),
    ("continue", skipLoops .again), ("shift", shift), ("getopts", getopts),
    ("set", fun args => setFrom (args.length + 1) args),
    ("unset", unsetAll), ("export", declare false),
    ("readonly", declare true), ("local", declareLocal),
    ("read", readInto bound), ("alias", declareAlias), ("unalias", dropAlias),
    ("trap", trap), ("kill", kill), ("wait", wait), ("cd", changeFolder),
    ("chdir", changeFolder), ("pwd", printFolder)]

def builtin? (bound : Nat) (name : Text) : Option Builtin :=
  ((builtins bound).find? (·.1.toList == name)).map (·.2)

/-- Commands that run others or look at them. -/
def runnerNames : List String := ["eval", ".", "command", "exec"]

def isBuiltin (name : Text) : Bool :=
  (builtin? 0 name).isSome || runnerNames.any (·.toList == name)

/-- Commands whose arguments may be assignments. -/
def assigningNames : List String := ["export", "readonly", "local"]

def assigns (name : Text) : Bool := assigningNames.any (·.toList == name)

/-- What a name of a command leads to. There is nothing that runs programs. -/
inductive Meaning where
  | function (body : Command)
  | builtin
  | program
  | missing

namespace Act

def meaningOf (functions : Bool) (name : Text) : Act Meaning := do
  if name.contains '/' then
    return if (← entryOf name) = .nothing then .missing else .program
  let s ← get
  match if functions then lookUp name s.functions else none with
  | some body => return .function body
  | none => return if isBuiltin name then .builtin else .missing

def describe (args : List Text) : Act Nat := do
  let (found, names) ← options "pv" "" args
  match found.any (·.1 == 'v'), names with
  | true, name :: _ =>
    match lookUp name (← get).aliases with
    | some value => say ("alias ".toList ++ aliasText name value) 0
    | none =>
      if isReserved name then say (name ++ ['\n']) 0
      else
        match ← meaningOf true name with
        | .missing => return 127
        | _ => say (name ++ ['\n']) 0
  | _, _ => return 0

end Act

end DeskConfig.Shell
