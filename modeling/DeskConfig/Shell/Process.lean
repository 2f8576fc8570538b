import DeskConfig.Shell.Parser
import DeskConfig.Shell.Variables

/-!
Shells as a whole: running the text of a script, what signals do to a shell, how it
ends, and shells that are started by others.
-/

namespace DeskConfig.Shell

/-- How commands inside others are run. -/
structure Engine where
  /-- Bounds each loop. -/
  bound : Nat
  /-- Runs a command whose failure is only being asked about, or any other. -/
  run : (asked : Bool) → Command → Act Nat

namespace Act

def setStatus (status : Nat) : Act Unit := modify fun s => { s with status }

def runFrom : (bound : Nat) → Engine → (asked : Bool) → Input → (status : Nat) → Act Nat
  | 0, _, _, _, _ => fail
  | n + 1, e, asked, input, status => do
    let s ← get
    let input := { input with aliases := s.aliases, documents := s.documents, numbers := s.numbers }
    match Parse.line e.bound input with
    | none => fail
    | some (line, input) =>
      modify fun s => { s with documents := input.documents, numbers := input.numbers }
      match line with
      | .ended => return status
      | .empty => runFrom n e asked input status
      | .command c =>
        let status ← e.run asked c
        if (← get).skip.isSome then return status
        runFrom n e asked input status

/-- Runs a text, one complete command after the other. Nothing at all succeeds. -/
def runText (e : Engine) (asked : Bool) (text : Text) : Act Nat :=
  runFrom e.bound e asked { rest := text } 0

def isHarmless (signal : Nat) : Bool := [17, 18, 23, 28].contains signal

/-- What a signal does to the shell that gets it. The one that kills cannot be trapped. -/
def receive (signal : Nat) : Act Unit := do
  if signal = 9 then throw (.killed 9)
  if signal = 0 then return
  match lookUp signal (← get).traps with
  | some action =>
    if !action.isEmpty then modify fun s =>
      { s with pending := if s.pending.contains signal then s.pending else signal :: s.pending }
  | none => if !isHarmless signal then throw (.killed signal)

/-- Runs the traps of the signals that have come, the lowest first. The status stays. -/
def runTraps (e : Engine) : Act Unit := do
  let s ← get
  if !s.pending.isEmpty then
    let status := s.kept.getD s.status
    set { s with kept := some status }
    for signal in s.pending.mergeSort do
      if (← get).skip.isNone then
        modify fun s => { s with pending := s.pending.filter (· != signal) }
        match lookUp signal (← get).traps with
        | some action =>
          let _ ← runText e false action
          if (← get).skip ≠ some (.back true) then setStatus status
        | none => pure ()
    modify fun t => { t with kept := s.kept }

/-- The end of a shell: the trap for its end runs, and its last status stays unless that
trap chooses another. A signal that has killed it is given. -/
def conclude (e : Engine) (r : Except Stop α) : Act (Option Nat) := do
  let isExit : Except Stop α → Bool
    | .error .exit => true
    | _ => false
  match r with
  | .error (.killed signal) => return some signal
  | r =>
    let s ← get
    let status :=
      if isExit r || s.skip == some (.back false) then s.kept.getD s.status else s.status
    set { s with status, kept := some status, skip := none, loops := 0 }
    match lookUp 0 s.traps with
    | none => return none
    | some action =>
      modify fun s => { s with traps := remove 0 s.traps }
      match ← attempt (runText e false action) with
      | .error (.killed signal) => return some signal
      | .ok _ | .error .exit => setStatus ((← get).kept.getD status)
      | .error _ => pure ()
      return none

/-- The status that others see. -/
def statusOf (status : Nat) : Option Nat → Nat
  | some signal => 128 + signal
  | none => status % 256

/-- The state that a shell starts in which another one starts. -/
def copied (s : State) : State :=
  { s with first := false, traps := s.traps.filter (·.2.isEmpty), jobs := [], pending := [] }

def receiveMail : Act Unit := do
  let s ← get
  if s.first then
    set { s with system := { s.system with mail := [] } }
    for signal in s.system.mail do receive signal

def inCopy (e : Engine) (act : Act α) : Act Nat := do
  let before ← get
  set (copied before)
  let signal ← conclude e (← attempt act)
  let after ← get
  set { before with system := after.system }
  receiveMail
  return statusOf after.status signal

def captured (e : Engine) (act : Act α) : Act (Text × Nat) := do
  let pipe ← newPipe []
  let status ← inCopy e do
    connect 1 (← openStream { target := .pipe pipe, writes := true })
    act
  return (← drain pipe, status)

end Act

end DeskConfig.Shell
