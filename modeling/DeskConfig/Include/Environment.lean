/-!
Environment variables. A look-up finds the first entry that, written as name,
equals sign and value, starts with the asked name and an equals sign.
-/

namespace DeskConfig

structure Environment where
  entries : List (String × String)

namespace Environment

/-- What follows `start` in `cs`, if `cs` begins with it. -/
def after? : (start cs : List Char) → Option (List Char)
  | [], cs => some cs
  | _ :: _, [] => none
  | s :: ss, c :: cs => if s = c then after? ss cs else none

def valueFrom? (name : List Char) : List (String × String) → Option (List Char)
  | [] => none
  | (n, v) :: rest =>
    match after? (name ++ ['=']) (n.toList ++ '=' :: v.toList) with
    | some value => some value
    | none => valueFrom? name rest

/-- No variable has an empty name. -/
def value? (e : Environment) (name : List Char) : Option (List Char) :=
  if name.isEmpty then none else valueFrom? name e.entries

def home? (e : Environment) : Option (List Char) :=
  match e.value? ['H', 'O', 'M', 'E'] with
  | some (c :: cs) => some (c :: cs)
  | _ => none

end Environment

end DeskConfig
