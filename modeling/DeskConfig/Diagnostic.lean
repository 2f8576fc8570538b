import DeskConfig.Include.Source

/-!
Warnings. Reading a configuration never stops at a bad element: the problem is noted
with the place it was found at, and reading goes on. Two conditions end a load; they
are reported in the same way, without a place.
-/

namespace DeskConfig

open Markup (Origin Fault)

/-- What ends a load. -/
inductive LoadError where
  | includeDepthExceeded (limit : Nat)
  | noRootConfig (primary fallback : String)
deriving DecidableEq, Repr

def LoadError.message : LoadError → String
  | .includeDepthExceeded limit => s!"include depth ({limit}) exceeded"
  | .noRootConfig primary fallback => s!"could not open {primary} or {fallback}"

/-- Who refers to a root menu. -/
inductive Referrer where
  | keyBinding
  | trayButton
deriving DecidableEq, Repr

/-- Why a reference to root menus is wrong. -/
inductive MissingMenu where
  | noneGiven
  | undefined (slot : Char)
deriving DecidableEq, Repr

def MissingMenu.message : MissingMenu → String
  | .noneGiven => "no root menu specified"
  | .undefined slot => s!"root menu {slot} not defined"

inductive Problem where
  | invalidStartTag (name : String)
  | invalidTag (parent name : String)
  | missingText (name : String)
  | invalidValue (what value : String)
  | invalidMode (what value : String)
  | missingMode (what : String)
  | invalidOption (text : String)
  | missingAction
  | keyless
  | invalidModifier (c : Char)
  | missingMenu (referrer : Referrer) (cause : MissingMenu)
  | invalidSlot (c : Char)
  | noSlots (text : String)
  | menuTooDeep (limit : Nat)
  | invalidMenu (reference : String)
  | unreadableInclude (label : String)
  | failedInclude (cause : IncludeError)
  | markup (cause : Fault)
  | namelessSwallow
  | repeatedSwallow (name : String)
  | faceless
  | repeatedDock
  | fatal (cause : LoadError)
deriving DecidableEq, Repr

def Problem.message : Problem → String
  | .invalidStartTag name => s!"invalid start tag: {name}"
  | .invalidTag parent name => s!"invalid tag in {parent}: {name}"
  | .missingText name => s!"no value specified for {name}"
  | .invalidValue what value => s!"invalid {what}: \"{value}\""
  | .invalidMode what value => s!"invalid {what} mode: {value}"
  | .missingMode what => s!"{what} not specified"
  | .invalidOption text => s!"invalid Group Option: {text}"
  | .missingAction => "no action specified for Key"
  | .keyless => "no key or keycode specified for binding"
  | .invalidModifier c => s!"invalid modifier: \"{c}\""
  | .missingMenu .keyBinding cause => "key binding: " ++ cause.message
  | .missingMenu .trayButton cause => "tray button: " ++ cause.message
  | .invalidSlot c => s!"invalid root menu specified: \"{c}\""
  | .noSlots text => s!"no root menu slots in \"{text}\""
  | .menuTooDeep limit => s!"menus nested deeper than {limit} levels"
  | .invalidMenu reference => s!"invalid included menu: {reference}"
  | .unreadableInclude label => s!"could not open included file {label}"
  | .failedInclude cause => cause.message
  | .markup cause => cause.message
  | .namelessSwallow => "cannot swallow a client with no name"
  | .repeatedSwallow name => s!"cannot swallow the same client multiple times: {name}"
  | .faceless => "no icon or label for TrayButton"
  | .repeatedDock => "only one Dock allowed"
  | .fatal cause => cause.message

/-- A problem and, unless it concerns the load as a whole, its place. -/
structure Diagnostic where
  origin : Option Origin
  problem : Problem
deriving DecidableEq, Repr

namespace Diagnostic

def message (d : Diagnostic) : String := d.problem.message

def render (d : Diagnostic) : String :=
  match d.origin with
  | some o => s!"{o.file}[{o.line}]: " ++ d.message
  | none => "configuration error: " ++ d.message

def located (origin : Origin) (problem : Problem) : Diagnostic := { origin := some origin, problem }

def ofMarkup (e : Markup.MarkupError) : Diagnostic := located e.origin (.markup e.fault)

def ofLoadError (e : LoadError) : Diagnostic := { origin := none, problem := .fatal e }

end Diagnostic

end DeskConfig
