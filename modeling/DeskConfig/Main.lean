import DeskConfig.Surroundings

/-!
The program: it looks at its environment and at the files that the run asks for, and
writes what the run has written.
-/

namespace DeskConfig

/-- The names in a folder. -/
def namesIn (path : String) : IO (List String) := do
  let entries ← ((← IO.currentDir) / path).readDir
  return entries.toList.map (·.fileName)

/-- What stands at a path. -/
def foundAt (path : String) : IO Found := do
  match ← (IO.FS.readBinFile path).toBaseIO with
  | .ok content => return .file content.toList
  | .error _ =>
    match ← (namesIn path).toBaseIO with
    | .ok names => return .folder names
    | .error _ => return .nothing

/-- Looks at files until the run asks for no other. -/
partial def lookAround (s : Surroundings) (args : List String) : IO Surroundings := do
  match s.missing? args with
  | none => return s
  | some path => lookAround (s.note path (← foundAt path)) args

end DeskConfig

open DeskConfig in
def main (args : List String) : IO UInt32 := do
  let environment := ((← foundAt "/proc/self/environ").bytes?).getD []
  let s ← lookAround (.ofEnvironment environment) args
  let r := run s.world args
  IO.print r.stdout
  IO.eprint r.stderr
  return r.code.toUInt32
