import DeskConfig.Shell.Arguments

/-!
Commands that declare what names stand for: variables, values read from the input, and
aliases.
-/

namespace DeskConfig.Shell

def nameAndValue (w : Text) : Text × Option Text :=
  let name := w.takeWhile (· != '=')
  (name, if name.length < w.length then some (w.drop (name.length + 1)) else none)

namespace Act

def declare (constant : Bool) (args : List Text) : Act Nat := do
  let (found, names) ← options "p" "" args
  if found.isEmpty then
    for w in names do
      let (name, value) := nameAndValue w
      match value, lookUp name (← get).bindings with
      | none, some v =>
        let v := { v with constant := v.constant || constant }
        modify fun s => { s with bindings := put name v s.bindings }
      | value, _ => setNamed name value constant
  return 0

def unsetAll (args : List Text) : Act Nat := do
  let (found, names) ← options "vf" "" args
  for name in names do
    if (found.getLast?.map (·.1)) == some 'f' then
      modify fun s => { s with functions := remove name s.functions }
    else unset name
  return 0

def declareLocal (args : List Text) : Act Nat := do
  if (← get).frames.isEmpty then fail
  for w in args do
    let (name, value) := nameAndValue w
    makeLocal name value
  return 0

/-- What a line of input says: its bytes, those behind backslashes as quoted, and whether
it goes on in the next line. -/
def inputGlyphs (literal : Bool) : Text → Glyphs × Bool
  | [] => ([], false)
  | ['\\'] => if literal then ([.byte '\\' false], false) else ([], true)
  | '\\' :: c :: cs =>
    if literal then
      let (gs, goesOn) := inputGlyphs literal (c :: cs)
      (.byte '\\' false :: gs, goesOn)
    else
      let (gs, goesOn) := inputGlyphs literal cs
      (.byte c true :: gs, goesOn)
  | c :: cs =>
    let (gs, goesOn) := inputGlyphs literal cs
    (.byte c false :: gs, goesOn)

/-- A line of input with those that continue it, and whether it had an end. -/
def inputLine : (bound : Nat) → (literal : Bool) → Act (Glyphs × Bool)
  | 0, _ => fail
  | n + 1, literal => do
    let (line, ended) ← readLine 0
    let (gs, goesOn) := inputGlyphs literal (line.filter (· != '\x00'))
    if goesOn && ended then
      let (more, ended) ← inputLine n literal
      return (gs ++ more, ended)
    return (gs, ended)

def readInto (bound : Nat) (args : List Text) : Act Nat := do
  let (found, names) ← options "r" "p" args
  if names.isEmpty then fail
  let (line, ended) ← inputLine bound (found.any (·.1 == 'r'))
  let values := lineFields (← get).separators names.length line
  for (name, value) in names.zip values do assign name value
  return if ended then 0 else 1

def aliasText (name value : Text) : Text := name ++ '=' :: quotedText value ++ ['\n']

/-- Defines aliases and prints those that are only named. -/
def declareAlias (args : List Text) : Act Nat := do
  let mut said := []
  let mut status := 0
  for w in args do
    let (name, value) := match w with
      | [] => ([], none)
      | c :: cs =>
        let (name, value) := nameAndValue cs
        (c :: name, value)
    match value with
    | some value => modify fun s => { s with aliases := put name value s.aliases }
    | none =>
      match lookUp w (← get).aliases with
      | some value => said := said ++ aliasText w value
      | none => status := 1
  say said status

def dropAlias (args : List Text) : Act Nat := do
  let (found, names) ← options "a" "" args
  if !found.isEmpty then
    modify fun s => { s with aliases := [] }
    return 0
  let mut status := 0
  for name in names do
    if (lookUp name (← get).aliases).isNone then status := 1
    modify fun s => { s with aliases := remove name s.aliases }
  return status

end Act

end DeskConfig.Shell
