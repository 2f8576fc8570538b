import DeskConfig.Console.Filter

/-!
The two output streams. Warnings and errors go to the error stream, the rest to the
standard one, each message on a line with the color of its level. Results of a
command are written as they are and pass no filter.
-/

namespace DeskConfig

inductive Line where
  | entry (e : Entry)
  | result (text : String)
deriving DecidableEq, Repr

def Entry.render (e : Entry) : String :=
  match e.level with
  | .error => s!"\x1b[31mERROR\x1b[0m {e.message}"
  | .warn =>
    if e.channel == Channel.warnings then s!"\x1b[33mWARN\x1b[0m  jwm: {e.message}"
    else s!"\x1b[33mWARN\x1b[0m  {e.message}"
  | .info =>
    if e.channel == Channel.stage then s!"\x1b[1;34m==>\x1b[0m \x1b[1m{e.message}\x1b[0m"
    else s!"  {e.message}"
  | .debug | .trace => s!"  \x1b[2m{e.message}\x1b[0m"

def Entry.isProblem (e : Entry) : Bool := e.level.rank ≤ Level.warn.rank

namespace Screen

/-- The text that a line puts on the standard stream. -/
def outText (f : Filter) : Line → String
  | .entry e => if f.shows e && !e.isProblem then e.render ++ "\n" else ""
  | .result text => text ++ "\n"

/-- The text that a line puts on the error stream. -/
def errText (f : Filter) : Line → String
  | .entry e => if f.shows e && e.isProblem then e.render ++ "\n" else ""
  | .result _ => ""

def stdout (f : Filter) (lines : List Line) : String := String.join (lines.map (outText f))

def stderr (f : Filter) (lines : List Line) : String := String.join (lines.map (errText f))

end Screen

end DeskConfig
