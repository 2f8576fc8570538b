import DeskConfig.Shell.Builtin
import DeskConfig.Shell.Redirections

/-!
Running commands. How deep commands may lie in each other is bounded, and so is the
number of turns of each loop; a shell that goes beyond fails. A command whose failure is
only asked about, such as a condition, never ends the shell where failures do so.
-/

namespace DeskConfig.Shell

namespace Act

/-- After a skip has reached its loop: whether the loop goes on. -/
def afterTurn : Act Bool := do
  let s ← get
  match s.skip with
  | none => return true
  | some (.back _) => return false
  | some (.leave n) =>
    set { s with skip := if n ≤ 1 then none else some (.leave (n - 1)) }
    return false
  | some (.again n) =>
    set { s with skip := if n ≤ 1 then none else some (.again (n - 1)) }
    return n ≤ 1

def leaveBack : Act Unit := modify fun s =>
  match s.skip with
  | some (.back _) => { s with skip := none }
  | _ => s

/-- Runs a loop, counted among the loops that can be left. -/
def inLoop (turns : Act Nat) : Act Nat := do
  modify fun s => { s with loops := s.loops + 1 }
  let status ← turns
  modify fun s => { s with loops := s.loops - 1 }
  return status

def loopTurns : (bound : Nat) → Engine → (asked whileTrue : Bool) → (condition body : Command) →
    (status : Nat) → Act Nat
  | 0, _, _, _, _, _, _ => fail
  | n + 1, e, asked, whileTrue, condition, body, status => do
    let holds ← e.run true condition
    let skip := (← get).skip
    let goesOn ← afterTurn
    if skip.isSome then
      if goesOn then loopTurns n e asked whileTrue condition body status
      else return if skip = some (.back true) then holds else status
    else if (holds == 0) != whileTrue then return status
    else
      let status ← e.run asked body
      if ← afterTurn then loopTurns n e asked whileTrue condition body status else return status

def eachTurns (e : Engine) (asked : Bool) (name : Text) (body : Command) :
    (status : Nat) → List Text → Act Nat
  | status, [] => return status
  | _, value :: values => do
    assign name value
    let status ← e.run asked body
    if ← afterTurn then eachTurns e asked name body status values else return status

def fitsAny (e : Engine) (subject : Text) : List Word → Act Bool
  | [] => return false
  | w :: ws => do
    if Pattern.fits (← expandPattern e w) subject then return true
    fitsAny e subject ws

def runCase (e : Engine) (asked : Bool) (subject : Text) :
    List (List Word × Option Command) → Act Nat
  | [] => return 0
  | (patterns, body) :: cases => do
    if ← fitsAny e subject patterns then
      match body with
      | some c => e.run asked c
      | none => return 0
    else runCase e asked subject cases

/-- The state that a shell in the background starts in: it has nothing to read. -/
def withoutInput (act : Act α) : Act α := do
  connect 0 (← openStream { target := .emptiness, reads := true })
  act

/-- Runs commands in shells of their own, each of which reads what the one before it
prints. The status is that of the last one. -/
def runPiped (e : Engine) (asked : Bool) : (input : Option Nat) → List Command → Act Nat
  | _, [] => return 0
  | input, c :: cs => do
    let output ← if cs.isEmpty then pure none else some <$> newPipe []
    let status ← inCopy e do
      if let some pipe := input then
        connect 0 (← openStream { target := .pipe pipe, reads := true })
      if let some pipe := output then
        connect 1 (← openStream { target := .pipe pipe, writes := true })
      e.run asked c
    if cs.isEmpty then return status else runPiped e asked output cs

def startJob (run : Act Nat) : Act Nat := do
  let number := State.processNumber + 1 + (← freshNumber)
  let before := (← get).process
  modify fun s => { s with process := number }
  let status ← run
  modify fun s =>
    { s with process := before, background := some number, jobs := put number status s.jobs }
  return 0

/-- Runs a function with arguments and a search of its own. There is a limit to how many
functions may be run inside each other. -/
def callFunction (e : Engine) (asked : Bool) (body : Command) (args : List Text) : Act Nat := do
  let before ← get
  set { before with calls := before.calls + 1 }
  if before.calls ≥ 1000 then fail
  modify fun s => { s with args, search := {}, loops := 0 }
  afterwards (discard (e.run asked body)) do
    modify fun s => { s with
      args := before.args, search := before.search, loops := before.loops, calls := s.calls - 1 }
    leaveBack
  return (← get).status

def contentOf (path : Text) : Act (Option Text) := do
  match ← openPath .read path with
  | none => return none
  | some number =>
    match lookUp number (← get).system.streams with
    | some { target := .file p, .. } =>
      match ← entryAt p with
      | .file content => return some content
      | _ => return some []
    | some { target := .pipe pipe, .. } => return some (← drain pipe)
    | _ => return some []

def includeScript (e : Engine) (args : List Text) : Act Nat := do
  match ← noOptions args with
  | [] => return 0
  | name :: _ =>
    if !name.contains '/' then fail
    let status ← runText e false (← orFail (← contentOf name))
    leaveBack
    return status

/-- The shell gives way to a program. Without one nothing happens. -/
def giveWay (args : List Text) : Act Nat := do
  match args with
  | [] => return 0
  | name :: _ =>
    setStatus (if name.contains '/' && (← entryOf name) ≠ .nothing then 126 else 127)
    throw .failure

def runBuiltin (e : Engine) (asked : Bool) (name : Text) (args : List Text) : Act Nat := do
  match String.ofList name with
  | "eval" => runText e asked ([' '].intercalate args)
  | "." => includeScript e args
  | "exec" => giveWay args
  | "command" => describe args
  | _ =>
    match builtin? e.bound name with
    | some run => run args
    | none => return 127

/-- A command given by its words, as far as they have been expanded. -/
structure Head where
  /-- The name of the command and its first arguments. -/
  fields : List Text
  rest : List Word
  meaning : Meaning := .builtin
  /-- Whether a mistake ends the shell and assignments stay. -/
  special : Bool := true
  isCommand : Bool := true

def firstFields (e : Engine) : List Word → Act (List Text × List Word)
  | [] => return ([], [])
  | w :: ws => do
    match ← expandFields e w with
    | [] => firstFields e ws
    | fields => return (fields, ws)

/-- Passes the options of `command`. The flag tells whether a command follows them; if
not, the fields are all as they were. -/
def passOptions (e : Engine) : (bound : Nat) → (passed fields : List Text) → List Word →
    Act (Bool × List Text × List Word)
  | 0, _, _, _ => fail
  | n + 1, passed, [], rest => do
    match ← firstFields e rest with
    | ([], rest) => return (false, passed, rest)
    | (fields, rest) => passOptions e n passed fields rest
  | n + 1, passed, w :: ws, rest => do
    match w with
    | ['-', '-'] =>
      let (ws, rest) ← if ws.isEmpty then firstFields e rest else pure (ws, rest)
      return if ws.isEmpty then (false, passed ++ [w], rest) else (true, ws, rest)
    | '-' :: c :: cs =>
      if (c :: cs).all (· == 'p') then passOptions e n (passed ++ [w]) ws rest
      else return (false, passed ++ w :: ws, rest)
    | _ => return (true, w :: ws, rest)

/-- Finds the command that the first words lead to. Behind `command` no function is looked
for, and a mistake never ends the shell. -/
def headFrom (e : Engine) : (bound : Nat) → (behind : Bool) → List Text → List Word → Act Head
  | 0, _, _, _ => fail
  | n + 1, behind, fields, rest => do
    match fields with
    | [] => return { fields, rest, isCommand := false }
    | name :: args =>
      let meaning ← meaningOf (!behind) name
      match meaning with
      | .builtin =>
        let head : Head := { fields, rest, special := !behind && Parse.isSpecial name }
        if name == "command".toList then
          match ← passOptions e (e.bound) [] args rest with
          | (true, fields, rest) => headFrom e n true fields rest
          | (false, args, rest) => return { head with fields := name :: args, rest }
        else return head
      | meaning => return { fields, rest, meaning, special := false }

def headOf (e : Engine) (words : List Word) : Act Head := do
  let (fields, rest) ← firstFields e words
  headFrom e e.bound false fields rest

def otherFields (e : Engine) (assignments : Bool) : List Word → Act (List Text)
  | [] => return []
  | w :: ws => do
    let fields ← match if assignments then Word.assignment? w else none with
      | some (name, value) => do pure [name ++ '=' :: (← expandValue e value)]
      | none => expandFields e w
    return fields ++ (← otherFields e assignments ws)

def runMeaning (e : Engine) (asked : Bool) (head : Head) (name : Text) (args : List Text) :
    Act Nat := do
  match head.meaning with
  | .function body => callFunction e asked body args
  | .missing => return 127
  | .program => return 126
  | .builtin =>
    if head.special then runBuiltin e asked name args
    else
      match ← attempt (runBuiltin e asked name args) with
      | .error .mistake => return (← get).status
      | r => resume r

/-- Assignments in front of a command stay if it is special or there is none; else they
are its own. -/
def assignAll (e : Engine) (own : Bool) : List (Text × Word) → Act Unit
  | [] => return
  | (name, w) :: rest => do
    let value ← expandValue e w
    if own then makeLocal name (some value) else setMarked name (some value) false
    assignAll e own rest

def runSimple (e : Engine) (asked : Bool) (assignments : List (Text × Word))
    (words : List Word) (redirections : List (Redirection Word)) : Act Nat := do
  modify fun s => { s with substituted := 0 }
  let head ← headOf e words
  let assigning := match head.meaning, head.fields with
    | .builtin, name :: _ => assigns name
    | _, _ => false
  let fields := head.fields ++ (← otherFields e assigning head.rest)
  let isExec := match head.meaning, fields with
    | .builtin, name :: _ => name == "exec".toList
    | _, _ => false
  let own := head.isCommand && !head.special
  let depth := (← get).frames.length
  if own then pushFrame
  let rs ← targets e redirections
  let before ← get
  let back : Act Unit := reconnect before (redirections.map redirectedStream)
  let r ← attempt do
    if !(← redirects e rs) then
      setStatus 2
      if head.isCommand && head.special then throw .mistake
      return 2
    assignAll e own assignments
    match fields with
    | [] => return (← get).substituted
    | name :: args => runMeaning e asked head name args
  match r with
  | .ok status =>
    if !isExec then back
    popFrames depth
    return status
  | .error stop =>
    back
    throw stop

/-- Commands whose failure may end the shell. -/
def counts : Command → Bool
  | .simple .. | .subshell .. | .background .. | .pipeline .. => true
  | _ => false

def perform (e : Engine) (asked : Bool) : Command → Act (Option Nat)
  | .simple assignments words redirections => runSimple e asked assignments words redirections
  | .sequence first second => do
    let _ ← e.run asked first
    if (← get).skip.isSome then return none else e.run asked second
  | .both first second => do
    let status ← e.run true first
    if status ≠ 0 || (← get).skip.isSome then return none else e.run asked second
  | .either first second => do
    let status ← e.run true first
    if status = 0 || (← get).skip.isSome then return none else e.run asked second
  | .negation c => do
    let status ← e.run true c
    return some (if status = 0 then 1 else 0)
  | .pipeline cs true => runPiped e asked none cs
  | .pipeline cs false =>
    match cs with
    | [] => return some 0
    | c :: cs => do
      let number ← newPipe []
      startJob (runPiped e asked (some number) (c :: cs))
  | .subshell body redirections => do
    let rs ← targets e redirections
    inCopy e do
      redirect e rs
      e.run asked body
  | .background body redirections => do
    let rs ← targets e redirections
    startJob <| inCopy e <| withoutInput do
      redirect e rs
      e.run false body
  | .redirected body redirections => do
    let rs ← targets e redirections
    let before ← get
    let run : Act Nat := do if ← redirects e rs then e.run asked body else return 2
    afterwards run (reconnect before (redirections.map redirectedStream))
  | .choice condition body otherwise => do
    let status ← e.run true condition
    if (← get).skip.isSome then return none
    else if status = 0 then e.run asked body
    else
      match otherwise with
      | some c => e.run asked c
      | none => return some 0
  | .loop whileTrue condition body =>
    inLoop (loopTurns e.bound e asked whileTrue condition body 0)
  | .each name words body => do
    let values ← expandAll e words
    inLoop (eachTurns e asked name body 0 values)
  | .select subject cases => do
    runCase e asked (← expandText e subject) cases
  | .define name body => do
    modify fun s => { s with functions := put name body s.functions }
    return some 0

def runWith (e : Engine) (asked : Bool) (c : Command) : Act Nat := do
  if (← get).isOn "noexec" then return (← get).status
  runTraps e
  let status ← perform e asked c
  if let some status := status then setStatus status
  runTraps e
  if counts c && !asked && status.any (· ≠ 0) && (← get).isOn "errexit" then throw .failure
  return (← get).status

end Act

/-- Runs commands that lie in each other no deeper than the bound. -/
def runAt : Nat → Bool → Command → Act Nat
  | 0, _, _ => Act.fail
  | n + 1, asked, c => Act.runWith ⟨n, runAt n⟩ asked c

def engine (bound : Nat) : Engine := ⟨bound, runAt bound⟩

end DeskConfig.Shell
