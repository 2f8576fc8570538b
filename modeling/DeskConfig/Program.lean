import DeskConfig.CommandLine
import DeskConfig.Console.Screen
import DeskConfig.Dump
import DeskConfig.Summary

/-!
What the commands do. Checking reports every problem and a summary, and fails if
there was any problem; dumping adds the configuration to what is said of its load.
Both start with the same load.
-/

namespace DeskConfig

def programName : String := "jwmrc"

def programVersion : String := "0.1.0"

/-- The lines a command writes, and why it failed, if it did. -/
structure Report where
  lines : List Line
  failure : Option String := none

namespace Report

def stage (message : String) : Line :=
  .entry { level := .info, channel := Channel.stage, message }

def info (message : String) : Line :=
  .entry { level := .info, channel := Channel.commands, message }

def debug (message : String) : Line :=
  .entry { level := .debug, channel := Channel.commands, message }

def failed (message : String) : Line :=
  .entry { level := .error, channel := Channel.commands, message }

/-- The lines of a load that a command makes. -/
def loadLines (o : Options) (l : Load) : List Line :=
  [debug s!"configuration: {o.configPath}", debug s!"fallback: {o.fallbackPath}"] ++
    l.journal.map fun event => .entry event.entry

/-- Said when a load fails; its cause has been reported as a warning. -/
def loadFailure : String := "configuration could not be loaded"

def check (world : World) (o : Options) : Report :=
  let l := load world o
  let lines := stage "Loading configuration" :: loadLines o l
  match l.outcome with
  | .error _ => { lines, failure := some loadFailure }
  | .ok loaded =>
    let problems := l.diagnostics.length
    { lines := lines ++ [info s!"source: {loaded.source}", stage "Summary"] ++
        (summary loaded.config problems).map info
      failure :=
        if problems = 0 then none else some s!"{problems} configuration problem(s) found" }

def dump (world : World) (o : Options) : Report :=
  let l := load world o
  match l.outcome with
  | .error _ => { lines := loadLines o l, failure := some loadFailure }
  | .ok loaded =>
    { lines := loadLines o l ++ [debug s!"loaded {loaded.source}", .result loaded.config.dump] }

def version : Report where
  lines := [.result s!"{programName} {programVersion}"]

def ofInvocation (world : World) (i : Invocation) : Report :=
  match i.command with
  | .check => check world (i.options world.environment)
  | .dump => dump world (i.options world.environment)
  | .version => version

/-- The lines, and last the reason of a failure. -/
def allLines (r : Report) : List Line :=
  r.lines ++ (r.failure.map failed).toList

end Report

/-- What a run of the program leaves behind. -/
structure Run where
  code : Nat
  stdout : String
  stderr : String
deriving DecidableEq, Repr

namespace Run

def usage : String :=
  s!"Usage: {programName} [OPTIONS] check|dump|version\n" ++
  "  -c, --config PATH, --fallback PATH, --max-include-depth 1..64, -v, --verbose"

def ofUsageError : UsageError → Run
  | .help => { code := 0, stdout := usage ++ "\n", stderr := "" }
  | .version => { code := 0, stdout := s!"{programName} {programVersion}\n", stderr := "" }
  | _ => { code := 2, stdout := "", stderr := usage ++ "\n" }

def ofReport (f : Filter) (r : Report) : Run where
  code := if r.failure.isSome then 1 else 0
  stdout := Screen.stdout f r.allLines
  stderr := Screen.stderr f r.allLines

end Run

/-- What happens in a run. -/
def journalOf (world : World) (args : List String) : Journal :=
  match Invocation.parse args with
  | .error _ => []
  | .ok i =>
    if i.command = .version then [] else (load world (i.options world.environment)).journal

/-- Runs the program with the given arguments. -/
def run (world : World) (args : List String) : Run :=
  match Invocation.parse args with
  | .error e => .ofUsageError e
  | .ok i =>
    .ofReport (Filter.ofEnvironment world.environment i.verbose) (Report.ofInvocation world i)

end DeskConfig
