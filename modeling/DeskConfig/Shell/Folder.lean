import DeskConfig.Shell.Arguments

/-!
The folder that a shell is in. A path is followed by its names alone, so that a step up undoes
the step before it.
-/

namespace DeskConfig.Shell

namespace Path

def steps : Path → List Text → Path
  | p, [] => p
  | p, [] :: names | p, ['.'] :: names => steps p names
  | p, ['.', '.'] :: names => steps p.dropLast names
  | p, name :: names => steps (p ++ [name]) names

def reached (p : Path) (cs : Text) : Path :=
  steps (if cs.head? == some '/' then [] else p) (split cs)

end Path

namespace Act

def currentFolder : Text := "PWD".toList

/-- Goes to a folder, if it is there. -/
def enterFolder (p : Path) : Act Bool := do
  if !(← isFolder p) then return false
  let before := (← get).folder
  assign "OLDPWD".toList (Path.text before)
  assign currentFolder (Path.text p)
  modify fun s => { s with folder := p }
  return true

def changeFolder (args : List Text) : Act Nat := do
  let (_, args) ← options "LP" "" args
  let s ← get
  let spelled (name : String) : Text := (s.spelled? name).getD []
  let (target, aloud) := match args with
    | [] => (spelled "HOME", false)
    | ['-'] :: _ => (spelled "OLDPWD", true)
    | target :: _ => (target, false)
  let p := Path.reached s.folder target
  if !(← enterFolder p) then fail
  if aloud then say (Path.text p ++ ['\n']) 0 else return 0

def printFolder (args : List Text) : Act Nat := do
  let _ ← options "LP" "" args
  say (Path.text (← get).folder ++ ['\n']) 0

end Act

end DeskConfig.Shell
