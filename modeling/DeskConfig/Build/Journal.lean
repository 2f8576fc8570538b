import DeskConfig.Diagnostic

/-!
The journal of a load: what happened, in order. The warnings, the commands that were
run and the lines a verbose console shows are all views of it.
-/

namespace DeskConfig

inductive Event where
  | warned (d : Diagnostic)
  | loading (path : String)
  | unreadableRoot (path : String)
  | fellBack (primary fallback : String)
  | including (label : String) (depth : Nat)
  | includingMenu (label : String) (depth : Nat)
  | reading (path : String)
  | ran (call : Call)
  | exited (command : String) (code : Option Int)
  | loaded (source : String) (warnings : Nat)
deriving DecidableEq, Repr

abbrev Journal := List Event

namespace Event

def diagnostic? : Event → Option Diagnostic
  | .warned d => some d
  | _ => none

def call? : Event → Option Call
  | .ran c => some c
  | _ => none

/-- The path of a file that was looked for. -/
def path? : Event → Option String
  | .loading path => some path
  | .unreadableRoot path => some path
  | .reading path => some path
  | _ => none

end Event

namespace Journal

def ofWarnings (ds : List Diagnostic) : Journal := ds.map .warned

def diagnostics (j : Journal) : List Diagnostic := j.filterMap Event.diagnostic?

def calls (j : Journal) : List Call := j.filterMap Event.call?

def paths (j : Journal) : List String := j.filterMap Event.path?

@[simp] theorem diagnostics_append (i j : Journal) :
    diagnostics (i ++ j) = diagnostics i ++ diagnostics j := List.filterMap_append

@[simp] theorem calls_append (i j : Journal) : calls (i ++ j) = calls i ++ calls j :=
  List.filterMap_append

@[simp] theorem diagnostics_ofWarnings (ds : List Diagnostic) :
    diagnostics (ofWarnings ds) = ds := by
  induction ds with
  | nil => rfl
  | cons d ds ih => exact congrArg (d :: ·) ih

@[simp] theorem calls_ofWarnings (ds : List Diagnostic) : calls (ofWarnings ds) = [] := by
  induction ds with
  | nil => rfl
  | cons d ds ih => exact ih

end Journal

end DeskConfig
