/-!
The files around a run. A path is looked at as it is written; at it stands a file, a
folder, of which the names in it are known, or nothing. What depends on files can be told as
a computation that asks for them, which shows the paths that it asks for.
-/

namespace DeskConfig

inductive Found where
  | file (bytes : List UInt8)
  | folder (names : List String)
  | nothing
deriving DecidableEq, Repr

/-- What stands at each path. -/
abbrev Files := String → Found

namespace Found

def bytes? : Found → Option (List UInt8)
  | .file bytes => some bytes
  | _ => none

end Found

/-- A computation that may ask what stands at paths. -/
inductive Query (α : Type) where
  | done (a : α)
  | ask (path : String) (rest : Found → Query α)

namespace Query

variable {α β : Type}

def bind : Query α → (α → Query β) → Query β
  | .done a, next => next a
  | .ask path rest, next => .ask path fun found => (rest found).bind next

instance : Monad Query where
  pure := .done
  bind := bind

/-- What comes of it among files. -/
def run (files : Files) : Query α → α
  | .done a => a
  | .ask path rest => (rest (files path)).run files

/-- The paths that it asks for among files, in order. -/
def asked (files : Files) : Query α → List String
  | .done _ => []
  | .ask path rest => path :: (rest (files path)).asked files

end Query

end DeskConfig
