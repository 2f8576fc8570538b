import DeskConfig.Build.Documents
import DeskConfig.Validation

/-!
Loading a configuration. The user's file is tried first and the file of the system
after it; the one that can be read is walked, and the result is checked at the end.
A load that is stopped reports why as its last warning.
-/

namespace DeskConfig

structure Options where
  configPath : String
  fallbackPath : String
  includeDepth : Nat
  shell : String
deriving DecidableEq, Repr

namespace Options

def default (env : Environment) : Options where
  configPath := String.ofList (Reference.expandHome env "~/.jwmrc".toList)
  fallbackPath := "/etc/system.jwmrc"
  includeDepth := 8
  shell := "/bin/sh"

/-- The environment may name the user's file. -/
def ofEnvironment (env : Environment) : Options :=
  match env.value? "JWMRC".toList with
  | some (c :: cs) => { default env with configPath := String.ofList (c :: cs) }
  | _ => default env

def limits (o : Options) : Limits where
  shell := o.shell
  includeDepth := o.includeDepth

end Options

structure Loaded where
  config : Config
  source : String

/-- A finished load: what came of it and what happened on the way. -/
structure Load where
  outcome : Except LoadError Loaded
  journal : Journal

namespace Load

def diagnostics (l : Load) : List Diagnostic := l.journal.diagnostics

def calls (l : Load) : List Call := l.journal.calls

def noting (events : Journal) (l : Load) : Load := { l with journal := events ++ l.journal }

def fatal (journal : Journal) (cause : LoadError) : Load where
  outcome := .error cause
  journal := journal ++ [.warned (.ofLoadError cause)]

/-- Checks tray buttons and then keys. -/
def finish (source : String) (c : Config) (journal : Journal) : Load :=
  let checked := c.checkKeys
  let journal := journal ++ .ofWarnings (c.checkTrayButtons ++ checked.warnings)
  { outcome := .ok { config := checked.value, source }
    journal := journal ++ [.loaded source journal.diagnostics.length] }

def ofProgress (o : Options) (source : String) (p : Progress) : Load :=
  if p.stopped then .fatal p.journal (.includeDepthExceeded o.includeDepth)
  else .finish source p.config p.journal

/-- The walk over a root document, whose depth is zero. A document that is no markup
at all leaves the configuration as it was. -/
def walkText (world : World) (o : Options) (label text : String) : Progress :=
  match Markup.parse label text with
  | .ok es => walkDocument world (includesAt world o.limits (o.limits.budget 0) 0) es {} []
  | .error cause => { config := {}, journal := [.warned (.ofMarkup cause)] }

end Load

/-- Loads a document held in memory, under the given label. -/
def loadText (world : World) (o : Options) (label text : String) : Load :=
  .ofProgress o label (Load.walkText world o label text)

/-- Loads the file of the given path, which holds the given text. -/
def loadFile (world : World) (o : Options) (path text : String) : Load :=
  (loadText world o path text).noting [.loading path]

def load (world : World) (o : Options) : Load :=
  match world.readText [] o.configPath with
  | .ok text => loadFile world o o.configPath text
  | .error _ =>
    let missing : Journal :=
      [.unreadableRoot o.configPath, .fellBack o.configPath o.fallbackPath]
    match world.readText [] o.fallbackPath with
    | .ok text => (loadFile world o o.fallbackPath text).noting missing
    | .error _ =>
      .fatal (missing ++ [.unreadableRoot o.fallbackPath])
        (.noRootConfig o.configPath o.fallbackPath)

end DeskConfig
