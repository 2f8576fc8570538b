import DeskConfig.Program
import DeskConfig.Shell.Session

/-!
The world as far as it has been looked at. A run in it that asks for nothing else is the
run in the whole world, so files and folders can be looked at between runs until none is
missing.
-/

namespace DeskConfig

structure Surroundings where
  environment : Environment
  /-- What has been found at each path. -/
  seen : List (String × Found) := []

namespace Surroundings

def files (s : Surroundings) : Files := fun path =>
  ((s.seen.find? (·.1 == path)).map (·.2)).getD .nothing

def world (s : Surroundings) : World := Shell.world s.environment s.files

def note (s : Surroundings) (path : String) (found : Found) : Surroundings :=
  { s with seen := (path, found) :: s.seen }

/-- The first path that a run or one of its commands looks at and that is not seen yet. -/
def missing? (s : Surroundings) (args : List String) : Option String :=
  let journal := journalOf s.world args
  (journal.paths ++ Shell.noticed s.environment s.files journal.calls).find? fun path =>
    !s.seen.any (·.1 == path)

/-- An entry of the environment; an equals sign at its start belongs to the name. -/
def entry (bytes : List UInt8) : String × String :=
  let cs := Text.decode bytes
  let name := cs.take 1 ++ (cs.drop 1).takeWhile (· != '=')
  (String.ofList name, String.ofList (cs.drop (name.length + 1)))

/-- Entries that each end with a zero byte. -/
def entriesFrom : (current : List UInt8) → List UInt8 → List (String × String)
  | [], [] => []
  | current, [] => [entry current.reverse]
  | current, b :: bs =>
    if b = 0 then entry current.reverse :: entriesFrom [] bs else entriesFrom (b :: current) bs

def ofEnvironment (bytes : List UInt8) : Surroundings where
  environment := { entries := entriesFrom [] bytes }

end Surroundings

end DeskConfig
