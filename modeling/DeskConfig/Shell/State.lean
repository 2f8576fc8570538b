import DeskConfig.Include.Files
import DeskConfig.Shell.Arithmetic
import DeskConfig.Shell.Input

/-!
What commands can see and change. The system holds what all shells share: files that they
have written, open streams and what has been printed; other files are asked for. Each shell
has variables, functions, arguments and settings of its own, and streams that its numbers
lead to. A shell that is started by another begins as a copy of it and leaves behind nothing
but the system and a status.
-/

namespace DeskConfig.Shell

/-- Names from the root folder down. -/
abbrev Path := List Text

/-- What stands at a path. -/
inductive Entry where
  | file (content : Text)
  | folder (names : List Text)
  | emptiness
  /-- Another name of a stream of the shell. -/
  | stream (number : Nat)
  | nothing
deriving DecidableEq

inductive Target where
  /-- What the whole run prints. -/
  | output
  /-- Takes everything and has nothing. -/
  | emptiness
  | pipe (number : Nat)
  | file (path : Path)
deriving DecidableEq

/-- An open stream. Shells that share it share its position. -/
structure Stream where
  target : Target
  reads : Bool := false
  writes : Bool := false
  atEnd : Bool := false
  position : Nat := 0

structure Pipe where
  unread : Text := []
  /-- The newest text first. -/
  arrived : List Text := []
  size : Nat := 0

structure System where
  /-- Files that commands have written. -/
  written : List (Path × Text) := []
  streams : List (Nat × Stream) := []
  pipes : List (Nat × Pipe) := []
  /-- The newest text first. -/
  printed : List Text := []
  /-- The number of the next stream or pipe. -/
  number : Nat := 0
  /-- The number of the next shell. -/
  process : Nat := 0
  /-- Signals that other shells have sent to the first one. -/
  mail : List Nat := []

structure Variable where
  value : Option Text
  constant : Bool := false

/-- What is put back when a function ends. -/
structure Local where
  name : Text
  before : Option Variable

/-- What passes over the commands that follow. -/
inductive Skip where
  | leave (loops : Nat)
  | again (loops : Nat)
  /-- The end of a function, with a status of its own or not. -/
  | back (given : Bool)
deriving DecidableEq

/-- Why a shell stops. -/
inductive Stop where
  /-- A mistake. It ends the shell unless a command around it bears with it. -/
  | mistake
  | exit
  /-- A failure where failures end the shell. -/
  | failure
  | killed (signal : Nat)
deriving DecidableEq

/-- Where the search for options among the arguments stands: the number of the next
argument, and how much of the last one has been taken. -/
structure Search where
  next : Nat := 1
  taken : Option Nat := none

structure State where
  system : System
  shell : Text
  /-- Whether this is the shell that all others come from. -/
  first : Bool := true
  process : Nat := 0
  bindings : List (Text × Variable)
  functions : List (Text × Command) := []
  aliases : List (Text × Text) := []
  documents : Documents := []
  /-- How many documents there have been. -/
  numbers : Nat := 0
  settings : List String := []
  args : List Text := []
  search : Search := {}
  status : Nat := 0
  /-- The status of the last command whose output became part of a word. -/
  substituted : Nat := 0
  streams : List (Nat × Nat) := []
  folder : Path
  /-- The newest first. -/
  frames : List (List Local) := []
  traps : List (Nat × Text) := []
  /-- Signals whose traps have not been run. -/
  pending : List Nat := []
  /-- The status that an exit without one has. -/
  kept : Option Nat := none
  skip : Option Skip := none
  loops : Nat := 0
  /-- How many functions are being run, one inside the other. -/
  calls : Nat := 0
  /-- Commands in the background that have ended, with their statuses. -/
  jobs : List (Nat × Nat) := []
  background : Option Nat := none

/-- What a shell does, which depends on the files that it asks for. Where it stops, what it has
changed stays. -/
abbrev Act := ExceptT Stop (StateT State Query)

def lookUp [BEq α] (key : α) (entries : List (α × β)) : Option β :=
  (entries.find? (·.1 == key)).map (·.2)

def put [BEq α] (key : α) (value : β) : List (α × β) → List (α × β)
  | [] => [(key, value)]
  | (k, v) :: rest => if k == key then (k, value) :: rest else (k, v) :: put key value rest

def remove [BEq α] (key : α) (entries : List (α × β)) : List (α × β) :=
  entries.filter (!·.1 == key)

namespace Act

def fail : Act α := do
  modify fun s => { s with status := 2 }
  throw .mistake

/-- What comes of an act, without stopping. -/
def attempt (act : Act α) : Act (Except Stop α) := fun s => do
  let (r, s) ← act s
  return (.ok r, s)

def resume : Except Stop α → Act α
  | .ok a => pure a
  | .error stop => throw stop

def afterwards (act : Act α) (after : Act Unit) : Act α := do
  let r ← attempt act
  after
  resume r

def orFail : Option α → Act α
  | some a => pure a
  | none => fail

end Act

end DeskConfig.Shell
