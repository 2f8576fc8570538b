import DeskConfig.Shell.Arguments
import DeskConfig.Shell.Process

/-!
Signals by number and name, and the commands about them: what is run when one comes,
sending one, and waiting for commands in the background.
-/

namespace DeskConfig.Shell

namespace Signal

/-- The end of the shell counts as a signal. One number has no name of its own. -/
def names : List String :=
  ["EXIT", "HUP", "INT", "QUIT", "ILL", "TRAP", "ABRT", "BUS", "FPE", "KILL", "USR1", "SEGV",
    "USR2", "PIPE", "ALRM", "TERM", "16", "CHLD", "CONT", "STOP", "TSTP", "TTIN", "TTOU", "URG",
    "XCPU", "XFSZ", "VTALRM", "PROF", "WINCH", "IO", "PWR", "SYS"]

def name (signal : Nat) : Text := (names.getD signal "").toList

def ofDigits? (w : Text) : Option Nat :=
  let n := (Sum.digitsIn 10 0 w).1
  if !w.isEmpty && w.all Char.isDigit && n < names.length then some n else none

/-- A signal by its number or its name, in letters of any size. Only a number may stand
for one below the lowest. -/
def ofText? (lowest : Nat) (w : Text) : Option Nat :=
  match ofDigits? w with
  | some n => some n
  | none =>
    let spelled := w.map Char.toUpper
    ((List.range names.length).drop lowest).find? fun n => name n == spelled

end Signal

namespace Act

/-- What is run at each signal, as commands. -/
def trapsText (s : State) : Text :=
  let lines := (List.range Signal.names.length).filterMap fun signal =>
    (lookUp signal s.traps).map fun action =>
      "trap -- ".toList ++ quotedText action ++ ' ' :: Signal.name signal ++ ['\n']
  lines.flatten

/-- Chooses what is run at signals; a minus sign or nothing stands for what a signal does
by itself. A signal that is not known ends the list. -/
def chooseTraps (action : Option Text) : List Text → Act Nat
  | [] => return 0
  | w :: rest => do
    match Signal.ofText? 0 w with
    | none => return 1
    | some signal =>
      modify fun s => { s with traps :=
        match action with
        | some action => put signal action s.traps
        | none => remove signal s.traps }
      chooseTraps action rest

def trap (args : List Text) : Act Nat := do
  match ← noOptions args with
  | [] => do say (trapsText (← get)) 0
  | [w] => chooseTraps none [w]
  | action :: signals =>
    if (Signal.ofDigits? action).isSome then chooseTraps none (action :: signals)
    else chooseTraps (if action == ['-'] then none else some action) signals

/-- Sends a signal to one shell. Those in the background have ended before, and only
until they are waited for there is something to send it to. -/
def sendTo (signal : Nat) (target : Text) : Act Bool := do
  let (group, w) := match target with
    | '-' :: w => (true, w)
    | w => (false, w)
  let n ← orFail (count? w)
  let s ← get
  if n = State.processNumber && !group then
    if s.first then receive signal
    else modify fun s => { s with system := { s.system with mail := s.system.mail ++ [signal] } }
    return true
  if n = s.process && !group then
    receive signal
    return true
  return (lookUp n s.jobs).isSome && !group

def killOptions (args : List Text) : Act (Option Nat × List Text) := do
  match args with
  | ('-' :: name) :: targets =>
    match Signal.ofText? 1 name with
    | some signal => return (some signal, targets)
    | none =>
      let (found, targets) ← options "" "s" args
      let signals ← found.mapM fun (_, w) => orFail (Signal.ofText? 1 w)
      return (signals.getLast?, targets)
  | targets => return (none, targets)

def kill (args : List Text) : Act Nat := do
  let (signal, targets) ← killOptions args
  if targets.isEmpty then fail
  let mut status := 0
  for target in targets do
    if !(← sendTo (signal.getD 15) target) then status := 1
  return status

/-- Waits for commands in the background, which have ended already. -/
def wait (args : List Text) : Act Nat := do
  match ← noOptions args with
  | [] => return 0
  | numbers =>
    let mut status := 127
    for w in numbers do
      let n ← orFail (count? w)
      match lookUp n (← get).jobs with
      | some ended => status := ended
      | none => pure ()
    return status

end Act

end DeskConfig.Shell
