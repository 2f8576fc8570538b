import DeskConfig.Build.Journal
import DeskConfig.Text.Numeral

/-!
From a reference to a document. An include takes one level of depth before anything
else happens to it; then its source is read or run, and the content becomes elements
that carry the label of the source.
-/

namespace DeskConfig

open Markup (Element)

/-- The depth of a document included at `depth`, unless that is past the limit.
Depths stop growing at the largest 32-bit number. -/
def enter? (limit depth : Nat) : Option Nat :=
  let next := min (depth + 1) Text.maxWord
  if limit < next then none else some next

/-- The content of a source as elements. -/
def parseSource (label text : String) : Except IncludeError (List Element) :=
  match Markup.parse label text with
  | .ok es => .ok es
  | .error cause => .error (.markup cause)

/-- A command's output counts whatever its exit code; a failure is only noted. -/
def exitNote (command : String) (r : CommandResult) : Journal :=
  if r.succeeded then [] else [.exited command r.code]

/-- The elements of a source, and what happened on the way. `history` holds the
commands run before. -/
def resolve (world : World) (shell : String) (history : List Call) (source : Source) :
    Except IncludeError (List Element) × Journal :=
  match source with
  | .file path =>
    match world.readText history path with
    | .ok text => (parseSource source.label text, [.reading path])
    | .error cause => (.error cause, [.reading path])
  | .command line =>
    let call : Call := { shell, command := line }
    match world.run history call with
    | some r => (parseSource source.label r.output, .ran call :: exitNote line r)
    | none => (.error (.notStarted line), [.ran call])

end DeskConfig
