import DeskConfig.Include.Source
import DeskConfig.Shell.Run

/-!
Commands in the world: a new shell for each of them, with the environment as variables
and the files as the commands before it have left them.
-/

namespace DeskConfig.Shell

/-- No loop makes more turns, and no commands lie deeper in each other. -/
def stepLimit : Nat := 1000000

def shellNames : List String :=
  ["sh", "/bin/sh", "/usr/bin/sh", "dash", "/bin/dash", "/usr/bin/dash", "bash", "/bin/bash",
    "/usr/bin/bash"]

/-- Variables whose values a new shell chooses, whatever the environment has. -/
def ownValues : List (Text × Text) :=
  [("IFS".toList, blankSeparators), (Act.optionIndex, ['1']),
    (Act.currentFolder, Path.text Path.start)]

/-- The variables of a new shell. -/
def startVariables (environment : Environment) : List (Text × Variable) :=
  let given := (environment.entries.map fun (name, value) => (ofString name, ofString value)).filter
    fun (name, _) => isName name
  (given ++ ownValues).foldl (fun bindings (name, value) =>
    put name { value := some value } bindings) []

def startStreams : List (Nat × Stream) :=
  [(0, { target := .emptiness, reads := true }), (1, { target := .output, writes := true }),
    (2, { target := .emptiness, writes := true })]

def startState (environment : Environment) (written : List (Path × Text)) (shell : String) :
    State where
  system := { written, streams := startStreams, number := 3 }
  shell := ofString shell
  process := State.processNumber
  bindings := startVariables environment
  streams := [(0, 0), (1, 1), (2, 2)]
  folder := Path.start

structure Outcome where
  output : Text
  /-- The exit code, unless a signal has killed the shell. -/
  code : Option Nat
  written : List (Path × Text)

def runScript (start : State) (text : Text) : Query Outcome := do
  let e := engine stepLimit
  let run : Act (Option Nat) := do Act.conclude e (← Act.attempt (Act.runText e false text))
  let (r, s) ← run start
  let code := match r with
    | .ok none => some (s.status % 256)
    | _ => none
  return { output := s.system.printed.reverse.flatten, code, written := s.system.written }

/-- Runs a call after others have written files; nothing comes of it if there is no such
shell. No name and no command has a null character in it. -/
def outcome? (environment : Environment) (written : List (Path × Text)) (call : Call) :
    Query (Option Outcome) := do
  if !shellNames.contains call.shell || call.command.toList.contains '\x00' then return none
  return some (← runScript (startState environment written call.shell) (ofString call.command))

/-- The files that calls have written, one after the other. -/
def writtenFrom (environment : Environment) :
    (written : List (Path × Text)) → List Call → Query (List (Path × Text))
  | written, [] => return written
  | written, call :: calls => do
    let o ← outcome? environment written call
    writtenFrom environment ((o.map (·.written)).getD written) calls

def writtenAfter (environment : Environment) (files : Files) (history : List Call) :
    List (Path × Text) :=
  (writtenFrom environment [] history).run files

/-- A file as it is after calls. -/
def fileAfter (environment : Environment) (files : Files) (history : List Call)
    (path : String) : Option (List UInt8) :=
  let p := Path.reached Path.start (ofString path)
  match lookUp p (writtenAfter environment files history) with
  | some content => some (bytesOf content)
  | none => (files path).bytes?

/-- The result of a command after others, or nothing if it cannot be started. -/
def execute (environment : Environment) (files : Files) (history : List Call) (call : Call) :
    Option CommandResult :=
  ((outcome? environment (writtenAfter environment files history) call).run files).map fun o =>
    { output := stringOf o.output, code := o.code.map fun n => (n : Int) }

/-- Commands see the same files, and leave those that they write to later ones. -/
def world (environment : Environment) (files : Files) : World where
  files := fileAfter environment files
  environment
  run := execute environment files

/-- The paths that commands look at, run one after the other. -/
def noticed (environment : Environment) (files : Files) (calls : List Call) : List String :=
  (writtenFrom environment [] calls).asked files

end DeskConfig.Shell
