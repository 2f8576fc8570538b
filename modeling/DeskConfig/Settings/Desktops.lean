import DeskConfig.Reading
import DeskConfig.Table

/-!
Virtual desktops and their names. The names are given by position, and only as many
as there are desktops; a name outlives the element that gave it as long as its
desktop does.
-/

namespace DeskConfig

open Markup (Element Tag)

structure Desktops where
  count : Nat := 4
  names : Table Nat String := .empty
deriving DecidableEq

namespace Desktops

/-- The number of desktops where an element does not give it. -/
def defaultCount : Nat := 4

/-- Names of desktops that no longer exist are forgotten. -/
def setCount (d : Desktops) (count : Nat) : Desktops :=
  { count, names := d.names.filterKeys (· < count) }

def setName (d : Desktops) (index : Nat) (name : String) : Desktops :=
  { d with names := d.names.insert index name }

/-- Names the desktops from `index` on. Anything but a name takes up a desktop too. -/
def readNamesFrom (parent : Tag) (index : Nat) : List Element → Desktops → Reading Desktops
  | [], d => return d
  | e :: es, d =>
    if d.count ≤ index then return d
    else if e.tag = .name then do
      match ← Reading.requiredText e with
      | some name => readNamesFrom parent (index + 1) es (d.setName index name)
      | none => readNamesFrom parent (index + 1) es d
    else do
      Reading.invalidTag parent e
      readNamesFrom parent (index + 1) es d

def read (e : Element) (d : Desktops) : Reading Desktops := do
  let count ← Reading.naturalAttribute e "count" 1 8 defaultCount
  readNamesFrom e.tag 0 e.children (d.setCount count)

end Desktops

end DeskConfig
