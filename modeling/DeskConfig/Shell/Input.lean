import DeskConfig.Shell.Syntax

/-!
The text that commands are read from. Characters are taken one by one; a word that is
an alias is replaced by the text it stands for, which is read before the rest. An alias
is not replaced inside its own text. Backslashes at the end of a line join it with the
next one.
-/

namespace DeskConfig.Shell

inductive Token where
  | ended
  | newline
  | semicolon
  | background
  | both
  | either
  | bar
  | opening
  | closing
  | caseEnd
  | redirection (stream : Nat) (sign : String)
  | word
  | reserved (word : String)
deriving DecidableEq

/-- What the next token is looked at for. -/
structure Checks where
  newlines : Bool := false
  reserved : Bool := false
  aliases : Bool := false
  /-- The word ends a document, so that dollars stand for themselves. -/
  plain : Bool := false

/-- A redirection from the script whose lines have not been read yet. -/
structure Announced where
  number : Nat
  delimiter : Text
  tabs : Bool
  literal : Bool

/-- An alias whose text is being read. -/
structure AliasFrame where
  name : Text
  /-- Whether its text ends in a blank, so that the next word may be an alias too. -/
  blank : Bool
  /-- The text to go on with, and how much of it has been read before. -/
  text : Text
  again : Nat
  /-- Aliases that had just been left. They are freed with this one. -/
  held : List Text

structure Input where
  rest : Text
  /-- How many characters of the text have been read before, its end among them. -/
  again : Nat := 0
  outer : List AliasFrame := []
  aliases : List (Text × Text) := []
  /-- Aliases whose text is being read. -/
  busy : List Text := []
  /-- Aliases whose text has just ended. -/
  leaving : List Text := []
  checks : Checks := {}
  /-- Whether the last token is to be read again. -/
  pushed : Bool := false
  last : Token := .newline
  /-- The last word. -/
  word : Word := []
  quoted : Bool := false
  announced : List Announced := []
  documents : Documents := []
  /-- How many documents there have been so far. -/
  numbers : Nat := 0

/-- Reading fails where the text is no command. -/
abbrev Parse := StateT Input Option

namespace Input

def isDelimiter (c : Char) : Bool := "\n;&|<>() \t".toList.contains c

/-- Aliases that have been left may be replaced again. -/
def freed (i : Input) : Input :=
  if i.leaving.isEmpty then i
  else { i with busy := i.busy.filter (!i.leaving.contains ·), leaving := [] }

def left (i : Input) (frame : AliasFrame) (outer : List AliasFrame) : Input :=
  { i.freed with
    rest := frame.text, again := frame.again, outer, leaving := frame.name :: frame.held
    checks := { i.checks with aliases := i.checks.aliases || frame.blank } }

def unwound (i : Input) : Input :=
  let rec go (i : Input) : List AliasFrame → Input
    | [] => { i with outer := [] }
    | frame :: outer =>
      if i.rest.isEmpty then go (i.left frame outer) outer else { i with outer := frame :: outer }
  go i i.outer

/-- Where reading goes on: at the first character that has not been read before, aliases
that have been left are free. -/
def ready (i : Input) : Input :=
  if i.again > 0 then i
  else
    let i := i.freed
    if i.rest.isEmpty then i.unwound else i

def next : Parse (Option Char) := fun i =>
  let i := i.ready
  match i.rest with
  | c :: rest => some (some c, { i with rest, again := i.again - 1 })
  | [] => some (none, i)

def unread : Option Char → Parse Unit
  | some c => modify fun i => { i with rest := c :: i.rest, again := i.again + 1 }
  | none => modify fun i => { i with again := i.again + 1 }

def nextJoined : (bound : Nat) → Parse (Option Char)
  | 0 => failure
  | n + 1 => do
    match ← next with
    | some '\\' =>
      match ← next with
      | some '\n' => nextJoined n
      | c =>
        unread c
        return some '\\'
    | c => return c

def passes (n : Nat) (c : Char) : Parse Bool := do
  let d ← nextJoined n
  if d = some c then return true
  unread d
  return false

def skipLine : (bound : Nat) → Parse Unit
  | 0 => failure
  | n + 1 => do
    match ← next with
    | none => return
    | some '\n' => unread (some '\n')
    | some _ => skipLine n

def pushBack : Parse Unit := modify fun i => { i with pushed := true }

def check (checks : Checks) : Parse Unit := modify fun i => { i with checks }

/-- Reads commands inside a word. Documents announced before have their lines after it,
and those announced inside have none after it. -/
def apart (read : Parse α) : Parse α := do
  let before ← get
  set { before with announced := [], pushed := false }
  let a ← read
  modify fun i => { i with announced := before.announced, pushed := false }
  return a

def within (text : Text) (read : Parse α) : Parse α := do
  let before ← get
  set { before with rest := text, again := 0, outer := [] }
  let a ← apart read
  modify fun i => { i with rest := before.rest, again := before.again, outer := before.outer }
  return a

def aliasOf? (i : Input) (name : Text) : Option Text :=
  if i.busy.contains name then none else (i.aliases.find? (·.1 == name)).map (·.2)

def enterAlias (name text : Text) : Parse Unit := modify fun i =>
  if text.isEmpty then i
  else
    let blank := text.getLast?.any fun c => c == ' ' || c == '\t'
    let frame : AliasFrame := { name, blank, text := i.rest, again := i.again, held := i.leaving }
    { i with
      rest := text, again := 0, outer := frame :: i.outer, busy := name :: i.busy, leaving := [] }

def atDocumentEnd (n : Nat) (delimiter : Option (Text × Bool)) : Parse Bool := do
  match delimiter with
  | none => return false
  | some (text, tabs) =>
    if tabs then dropTabs n
    let before ← get
    if ← isNext text then return true
    set before
    return false
where
  dropTabs : Nat → Parse Unit
    | 0 => failure
    | n + 1 => do
      match ← next with
      | some '\t' => dropTabs n
      | c => unread c
  isNext : Text → Parse Bool
    | [] => do
      match ← next with
      | none | some '\n' => return true
      | _ => return false
    | c :: cs => do
      if (← next) = some c then isNext cs else return false

end Input

end DeskConfig.Shell
