import DeskConfig.Include.Reference
import DeskConfig.Markup.Document
import DeskConfig.Text.Utf8

/-!
Where the content of an include comes from, and the world it is taken from. A
document is a file, or what a generator command prints; commands are only allowed
in menus. The world answers every command in turn and may look at the commands
before it.
-/

namespace DeskConfig

/-- A command line handed to a shell. -/
structure Call where
  shell : String
  command : String
deriving DecidableEq, Repr

/-- What a command printed, also as errors, and how it ended: with an exit code, or killed
by a signal. -/
structure CommandResult where
  output : String
  errors : String := ""
  code : Option Int := some 0
  succeeded : Bool := code == some 0
deriving DecidableEq, Repr

structure World where
  /-- The bytes of a file that can be read after the given calls. -/
  files : List Call → String → Option (List UInt8)
  environment : Environment
  /-- The result of a command, after the given calls; none if it cannot be started. -/
  run : List Call → Call → Option CommandResult

inductive IncludeError where
  | undefinedVariable (reference name : String)
  | unreadable (path : String)
  | notStarted (command : String)
  | markup (cause : Markup.MarkupError)
deriving DecidableEq, Repr

namespace IncludeError

def undefinedMessage (name : String) : String :=
  s!"error looking key '{name}' up: environment variable not found"

def expansionMessage (reference detail : String) : String :=
  s!"could not expand include path {reference}: {detail}"

def message : IncludeError → String
  | .undefinedVariable reference name => expansionMessage reference (undefinedMessage name)
  | .unreadable path => s!"could not open include: {path}"
  | .notStarted command => s!"could not execute included program: {command}"
  | .markup cause => cause.message

end IncludeError

/-- The path that a reference in a document names. -/
def World.expandPath (world : World) (reference : String) : Except IncludeError String :=
  match Reference.expand world.environment reference with
  | .ok path => .ok path
  | .error name => .error (.undefinedVariable reference name)

/-- The text of a file as it is after the given calls. -/
def World.readText (world : World) (history : List Call) (path : String) :
    Except IncludeError String :=
  match world.files history path with
  | some bytes => .ok (String.ofList (Text.decode bytes))
  | none => .error (.unreadable path)

inductive Source where
  | file (path : String)
  | command (line : String)
deriving DecidableEq, Repr

namespace Source

/-- Marks a reference in a menu as a command. -/
def execMark : String := "exec:"

/-- The label that elements of the included document carry. -/
def label : Source → String
  | .file path => path
  | .command line => line

def ofReference (world : World) (reference : String) : Except IncludeError Source :=
  (world.expandPath reference).map .file

def ofMenuReference (world : World) (reference : String) : Except IncludeError Source :=
  match Environment.after? execMark.toList reference.toList with
  | some line => .ok (.command (String.ofList line))
  | none => ofReference world reference

end Source

end DeskConfig
