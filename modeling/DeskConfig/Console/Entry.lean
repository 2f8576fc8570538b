import DeskConfig.Build.Journal

/-!
What the console can show: messages with a level, from a channel that a filter may
name. Every event of a load is one message.
-/

namespace DeskConfig

inductive Level where
  | error
  | warn
  | info
  | debug
  | trace
deriving DecidableEq, Repr

namespace Level

/-- The more is shown, the higher. -/
def rank : Level → Nat
  | error => 1
  | warn => 2
  | info => 3
  | debug => 4
  | trace => 5

end Level

structure Entry where
  level : Level
  channel : String
  message : String
deriving DecidableEq, Repr

namespace Channel

def warnings : String := "jwmrc::config"

def stage : String := "jwmrc::stage"

def commands : String := "jwmrc::logging::logger"

def loader : String := "jwmrc::loader"

def documents : String := "jwmrc::dispatch"

def menus : String := "jwmrc::menu"

def includes : String := "jwmrc::include"

end Channel

def exitText : Option Int → String
  | some code => s!"Some({code})"
  | none => "None"

namespace Event

def debug (channel message : String) : Entry := { level := .debug, channel, message }

def entry : Event → Entry
  | .warned d => { level := .warn, channel := Channel.warnings, message := d.render }
  | .loading path => debug Channel.loader s!"loading {path}"
  | .unreadableRoot path => debug Channel.loader (IncludeError.unreadable path).message
  | .fellBack primary fallback =>
    { level := .info, channel := Channel.loader,
      message := s!"could not open {primary}, using {fallback}" }
  | .including label depth => debug Channel.documents s!"including {label} at depth {depth}"
  | .includingMenu label depth => debug Channel.menus s!"including menu {label} at depth {depth}"
  | .reading path => debug Channel.includes s!"reading include {path}"
  | .ran call => debug Channel.includes s!"running menu generator {call.command}"
  | .exited command code =>
    debug Channel.includes
      (s!"menu generator {command} exited with " ++ exitText code ++ "; using its output anyway")
  | .loaded source warnings =>
    debug Channel.loader s!"loaded {source} with {warnings} warning(s)"

end Event

end DeskConfig
