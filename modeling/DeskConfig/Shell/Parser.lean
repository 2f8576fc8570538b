import DeskConfig.Shell.Input

/-!
Reading commands. A script is read one complete command at a time, so that the commands
before a mistake are still run, and so that an alias counts for the commands after it.
Commands in words and bodies of functions are read by the readers they are given; the
readers at the end of the module close the circle, with a bound on how deep it goes.
-/

namespace DeskConfig.Shell

/-- Which commands belong to a list: those up to the end of the line, those up to a word
or sign that ends a block, of which there has to be one, or any number of those. -/
inductive Extent where
  | line
  | block
  | any
deriving DecidableEq

structure Grammar where
  /-- Bounds each loop over the text. -/
  bound : Nat
  list : Extent → Parse (Option Command)
  command : Parse Command

/-- Where a stretch of a word stands. -/
inductive Place where
  | bare
  /-- The braces of a variable, outside quotes. -/
  | braces
  | quotes
  /-- Braces inside quotes; the flag says that quotes in them are open. -/
  | quotedBraces (opened : Bool)
  | arithmetic (depth : Nat)
  | lines
deriving DecidableEq

/-- A word and the document it belongs to, if any, given by the line that ends it. -/
structure Site where
  place : Place
  document : Option (Text × Bool) := none

namespace Place

def isQuoted : Place → Bool
  | bare | braces => false
  | _ => true

def inBraces : Place → Place
  | bare | braces => braces
  | _ => quotedBraces false

def escapes (p : Place) (inDocument : Bool) (c : Char) : Bool :=
  match p with
  | bare | braces => true
  | quotedBraces _ => "$\x60\\\"\x7d".toList.contains c
  | _ => "$\x60\\".toList.contains c || (c == '"' && !inDocument)

end Place

namespace Word

/-- Puts a segment in front of a word, joined with text of the same kind. -/
def consSegment (s : Segment) (w : Word) : Word :=
  match s, w with
  | .text q cs, .text r ds :: rest =>
    if q = r then .text q (cs ++ ds) :: rest else .text q cs :: .text r ds :: rest
  | s, w => s :: w

def consChar (quoted : Bool) (c : Char) (w : Word) : Word := consSegment (.text quoted [c]) w

def literal? : Word → Option Text
  | [] => some []
  | .text false cs :: rest => (literal? rest).map (cs ++ ·)
  | _ => none

def spelling : Word → Text
  | [] => []
  | .text _ cs :: rest => cs ++ spelling rest
  | _ :: rest => spelling rest

/-- A leading name and equals sign make a word an assignment. -/
def assignment? : Word → Option (Text × Word)
  | .text false cs :: rest =>
    match leadingName cs with
    | [] => none
    | name =>
      match cs.drop name.length with
      | '=' :: value => some (name, if value.isEmpty then rest else .text false value :: rest)
      | _ => none
  | _ => none

end Word

namespace Parse

open Input

def singleQuoted : (bound : Nat) → Site → Parse Text
  | 0, _ => failure
  | n + 1, site => do
    match ← next with
    | none => failure
    | some '\x27' => return []
    | some '\n' =>
      if ← atDocumentEnd n site.document then failure
      return '\n' :: (← singleQuoted n site)
    | some c => return c :: (← singleQuoted n site)

/-- The text up to a backquote, with one level of backslashes taken off. -/
def backquoted : (bound : Nat) → (quoted : Bool) → Parse Text
  | 0, _ => failure
  | n + 1, quoted => do
    match ← nextJoined n with
    | none => failure
    | some '\x60' => return []
    | some '\\' =>
      match ← next with
      | none => failure
      | some c =>
        let rest ← backquoted n quoted
        if c = '\x60' ∨ c = '\\' ∨ c = '$' ∨ (quoted ∧ c = '"') then return c :: rest
        return '\\' :: c :: rest
    | some c => return c :: (← backquoted n quoted)

def nameFrom : (bound : Nat) → (accepts : Char → Bool) → Option Char → Parse (Text × Option Char)
  | n + 1, accepts, some c => do
    if !accepts c then return ([], some c)
    let (rest, d) ← nameFrom n accepts (← nextJoined n)
    return (c :: rest, d)
  | 0, _, some _ => failure
  | _, _, none => return ([], none)

def isSpecialSign (c : Char) : Bool := "!#$*-?@".toList.contains c || c.isDigit

/-- The name at the start of braces, whether its length is asked for, and the character
after it. Without a name there is none to use. -/
def bracedName (n : Nat) (c : Option Char) : Parse (Option (Text × Bool) × Option Char) := do
  match c with
  | none => return (none, none)
  | some '\x7d' => return (none, c)
  | some c =>
    if isNameStart c || c.isDigit then named false c
    else
      let d ← nextJoined n
      if c ≠ '#' then return (if isSpecialSign c then some ([c], false) else none, d)
      match d with
      | none => return (some (['#'], false), none)
      | some d =>
        if isNameChar d then named true d
        else
          let e ← nextJoined n
          if d = '\x7d' ∨ e ≠ some '\x7d' then
            unread e
            return (some (['#'], false), some d)
          return (if isSpecialSign d then some ([d], true) else none, e)
where
  named (length : Bool) (c : Char) : Parse (Option (Text × Bool) × Option Char) := do
    let accepts := if c.isDigit then Char.isDigit else isNameChar
    let (name, d) ← nameFrom (n + 1) accepts (some c)
    return (some (name, length), d)

inductive Purpose where
  | value
  | word (use : Word → Use Word)
  | pattern (use : Word → Use Word)

def purpose (n : Nat) (c : Option Char) : Parse Purpose := do
  match c with
  | some '\x7d' => return .value
  | some ':' => return plain true (← nextJoined n)
  | some '#' => return .pattern (.trim true (← passes n '#'))
  | some '%' => return .pattern (.trim false (← passes n '%'))
  | c => return plain false c
where
  plain (emptyToo : Bool) : Option Char → Purpose
    | some '-' => .word (.default emptyToo)
    | some '+' => .word (.alternative emptyToo)
    | some '?' => .word (.complain emptyToo)
    | some '=' => .word (.assign emptyToo)
    | _ => .word .unknown

/-- How a word is read up to its end, and the first character of it. -/
abbrev WordReader := Site → Option Char → Parse Word

def braced (n : Nat) (read : WordReader) (site : Site) : Parse Segment := do
  let quoted := site.place.isQuoted
  let rest (place : Place) : Parse Word := do
    let site := { site with place }
    read site (← nextJoined n)
  let (name, c) ← bracedName n (← nextJoined n)
  match name with
  | none =>
    unread c
    return .parameter quoted [] (.unknown (← rest site.place.inBraces))
  | some (name, true) =>
    if c = some '\x7d' then return .parameter quoted name .length
    unread c
    return .parameter quoted name (.unknown (← rest site.place.inBraces))
  | some (name, false) =>
    match ← purpose n c with
    | .value => return .parameter quoted name .value
    | .word use => return .parameter quoted name (use (← rest site.place.inBraces))
    | .pattern use => return .parameter quoted name (use (← rest .braces))

/-- The commands of a word, which stand between parentheses. A list of them ends with a
token that is to be read again. -/
def enclosed (g : Grammar) (quoted : Bool) : Parse Segment :=
  apart do
    let script ← g.list .any
    if (← get).last ≠ .closing then failure
    return .output quoted script

def dollar (n : Nat) (g : Grammar) (read : WordReader) (site : Site) : Parse Segment := do
  let quoted := site.place.isQuoted
  match ← nextJoined n with
  | some '(' =>
    if ← passes n '(' then
      return .arithmetic quoted
        (← read { site with place := .arithmetic 0 } (← nextJoined n))
    enclosed g quoted
  | some '\x7b' => braced n read site
  | some c =>
    if isNameStart c then
      let (name, d) ← nameFrom n isNameChar (some c)
      unread d
      return .parameter quoted name .value
    if isSpecialSign c then return .parameter quoted [c] .value
    unread (some c)
    return .text quoted ['$']
  | none => return .text quoted ['$']

/-- The rest of a word from a character on. The state notes whether quotes occur. -/
def segments : (bound : Nat) → Grammar → WordReader
  | 0, _, _, _ => failure
  | n + 1, g, site, c => do
    let place := site.place
    let quoted := place.isQuoted
    let on (site : Site) : Parse Word := do segments n g site (← nextJoined n)
    let inside (place : Place) : Parse Word := do
      segments n g { site with place } (← nextJoined n)
    let noteQuotes : Parse Unit := modify fun i => { i with quoted := true }
    let marks : Word := if site.document.isSome then [] else [.mark]
    match c with
    | none => if place = .bare ∨ place = .lines then return [] else failure
    | some '\n' =>
      if place = .bare then
        unread (some '\n')
        return []
      let c ← if site.document.isSome then nextJoined n else pure none
      unread c
      if ← atDocumentEnd n site.document then
        return Word.consChar quoted '\n' (← segments n g site none)
      return Word.consChar quoted '\n' (← on site)
    | some '\\' =>
      match ← next with
      | none => return Word.consChar true '\\' (← on site)
      | some d =>
        if place = .bare ∨ place = .braces then noteQuotes
        let rest ← on site
        if place.escapes site.document.isSome d then return Word.consChar true d rest
        return Word.consChar true '\\' (Word.consChar true d rest)
    | some '\x60' =>
      if (← get).checks.plain then return Word.consChar quoted '\x60' (← on site)
      let text ← backquoted n quoted
      let script ← within text (g.list .any)
      return .output quoted script :: (← on site)
    | some '$' =>
      if (← get).checks.plain then return Word.consChar quoted '$' (← on site)
      let s ← dollar n g (segments n g) site
      return Word.consSegment s (← on site)
    | some c =>
      match place, c with
      | .bare, '\x27' | .braces, '\x27' =>
        noteQuotes
        let text ← singleQuoted n site
        return marks ++ .text true text :: marks ++ (← on site)
      | .bare, '"' | .braces, '"' =>
        noteQuotes
        let text ← inside .quotes
        return marks ++ text ++ marks ++ (← on site)
      | .quotes, '"' => return []
      | .quotedBraces opened, '"' =>
        return marks ++ (← on { site with place := .quotedBraces !opened })
      | .braces, '\x7d' | .quotedBraces false, '\x7d' => return []
      | .arithmetic depth, '(' =>
        return Word.consChar quoted c (← on { site with place := .arithmetic (depth + 1) })
      | .arithmetic (depth + 1), ')' =>
        return Word.consChar quoted c (← on { site with place := .arithmetic depth })
      | .arithmetic 0, ')' =>
        if ← passes n ')' then return []
        return Word.consChar quoted c (← on site)
      | .bare, c =>
        if isDelimiter c then
          unread (some c)
          return []
        return Word.consChar quoted c (← on site)
      | _, c => return Word.consChar quoted c (← on site)

/-- The sign of a redirection, from its first character on. -/
def redirectionSign (n : Nat) (c : Char) : Parse String := do
  let d ← nextJoined n
  match c, d with
  | '>', some '>' => return ">>"
  | '>', some '|' => return ">|"
  | '>', some '&' => return ">&"
  | '<', some '<' => return if ← passes n '-' then "<<-" else "<<"
  | '<', some '&' => return "<&"
  | '<', some '>' => return "<>"
  | c, d =>
    unread d
    return String.singleton c

def wordToken (n : Nat) (g : Grammar) (c : Char) : Parse Token := do
  modify fun i => { i with quoted := false }
  let w ← segments n g { place := .bare } (some c)
  let quoted := (← get).quoted
  let stream? : Option (Option Nat) :=
    match quoted, Word.literal? w with
    | false, some [] => some none
    | false, some [d] => if d.isDigit then some (some (d.toNat - '0'.toNat)) else none
    | _, _ => none
  let d ← nextJoined n
  match stream?, d with
  | some stream, some '>' => return .redirection (stream.getD 1) (← redirectionSign n '>')
  | some stream, some '<' => return .redirection (stream.getD 0) (← redirectionSign n '<')
  | _, _ =>
    unread d
    modify fun i => { i with word := w, quoted }
    return .word

def freshToken : (bound : Nat) → Grammar → Parse Token
  | 0, _ => failure
  | n + 1, g => do
    match ← nextJoined n with
    | none => return .ended
    | some ' ' | some '\t' => freshToken n g
    | some '#' =>
      skipLine n
      freshToken n g
    | some '\n' => return .newline
    | some '&' => return if ← passes n '&' then .both else .background
    | some '|' => return if ← passes n '|' then .either else .bar
    | some ';' => return if ← passes n ';' then .caseEnd else .semicolon
    | some '(' => return .opening
    | some ')' => return .closing
    | some c => wordToken n g c

/-- The body of a document without expansions. -/
def plainLines : (bound : Nat) → (delimiter : Text × Bool) → Parse Text
  | 0, _ => failure
  | n + 1, delimiter => do
    match ← next with
    | none => return []
    | some '\n' =>
      if ← atDocumentEnd n (some delimiter) then return ['\n']
      return '\n' :: (← plainLines n delimiter)
    | some c => return c :: (← plainLines n delimiter)

def document (n : Nat) (g : Grammar) (a : Announced) : Parse Unit := do
  let delimiter := some (a.delimiter, a.tabs)
  if !a.literal then unread (← nextJoined n)
  let body ←
    if ← atDocumentEnd n delimiter then pure []
    else if a.literal then pure [.text true (← plainLines n (a.delimiter, a.tabs))]
    else segments n g { place := .lines, document := delimiter } (← nextJoined n)
  modify fun i => { i with documents := (a.number, body) :: i.documents }

def documents (n : Nat) (g : Grammar) : Parse Unit := do
  let announced := (← get).announced
  modify fun i => { i with announced := [] }
  for a in announced do document n g a

def anyToken (n : Nat) (g : Grammar) : Parse Token := do
  let i ← get
  if i.pushed then
    set { i with pushed := false }
    return i.last
  let t ← freshToken n g
  modify fun i => { i with last := t }
  return t

/-- Passes line ends. Behind each the documents announced in the line have their lines. -/
def passLines : (bound : Nat) → Grammar → Token → Parse Token
  | n + 1, g, .newline => do
    documents n g
    passLines n g (← anyToken n g)
  | 0, _, .newline => failure
  | _, _, t => return t

/-- The next token, looked at as the state asks for: line ends are passed, a word may be
a reserved one, and an alias is replaced. -/
def checkedToken : (bound : Nat) → Grammar → Checks → Parse Token
  | 0, _, _ => failure
  | n + 1, g, checks => do
    let t ← anyToken n g
    let t ← if checks.newlines then passLines n g t else pure t
    let i ← get
    match t, i.quoted, Word.literal? i.word with
    | .word, false, some text =>
      if checks.reserved && isReserved text then
        let t := .reserved (String.ofList text)
        set { i with last := t, checks := {} }
        return t
      match if i.checks.aliases then aliasOf? i text else none with
      | some value =>
        enterAlias text value
        checkedToken n g checks
      | none =>
        set { i with checks := {} }
        return .word
    | t, _, _ =>
      set { i with checks := {} }
      return t

def token (g : Grammar) : Parse Token := do checkedToken g.bound g (← get).checks

def expect (g : Grammar) (t : Token) : Parse Unit := do
  if (← token g) ≠ t then failure

def lineChecks : Checks := { newlines := true, reserved := true, aliases := true }

def commandChecks : Checks := { reserved := true, aliases := true }

def anyWord (g : Grammar) : Parse Word := do
  expect g .word
  return (← get).word

def redirection (g : Grammar) (stream : Nat) (sign : String) :
    Parse (Redirection Word) := do
  let isDocument := sign == "<<" || sign == "<<-"
  if isDocument then check { plain := true }
  let w ← anyWord g
  let i ← get
  if isDocument then
    let a : Announced :=
      { number := i.numbers, delimiter := Word.spelling w, tabs := sign == "<<-"
        literal := i.quoted }
    set { i with announced := i.announced ++ [a], numbers := i.numbers + 1 }
    return .lines stream a.number
  return match sign with
    | ">>" => .file stream .append w
    | ">|" => .file stream .overwrite w
    | ">&" | "<&" => .duplicate stream w
    | "<>" => .file stream .both w
    | "<" => .file stream .read w
    | _ => .file stream .write w

def redirections : (bound : Nat) → Grammar → Parse (List (Redirection Word))
  | 0, _ => failure
  | n + 1, g => do
    match ← token g with
    | .redirection stream sign =>
      let r ← redirection g stream sign
      return r :: (← redirections n g)
    | _ =>
      pushBack
      return []

/-- Names of special commands, which no function may have. -/
def specialNames : List String :=
  [":", ".", "break", "continue", "eval", "exec", "exit", "export", "local", "readonly", "return",
    "set", "shift", "trap", "unset"]

def isSpecial (name : Text) : Bool := specialNames.any (·.toList == name)

/-- A command without a keyword, as far as it has been read. -/
structure Simple where
  assignments : List (Text × Word) := []
  words : List Word := []
  redirections : List (Redirection Word) := []

def Simple.command (s : Simple) : Command :=
  .simple s.assignments.reverse s.words.reverse s.redirections.reverse

def function (g : Grammar) (name : Word) : Parse Command := do
  expect g .closing
  match Word.literal? name with
  | some name =>
    if !isName name || isSpecial name then failure
    check lineChecks
    return .define name (← g.command)
  | none => failure

def simple : (bound : Nat) → Grammar → Simple → Parse Command
  | 0, _, _ => failure
  | n + 1, g, s => do
    check { aliases := s.words.isEmpty }
    match ← token g with
    | .word =>
      let i ← get
      match s.words, i.word.assignment? with
      | [], some a => simple n g { s with assignments := a :: s.assignments }
      | words, _ => simple n g { s with words := i.word :: words }
    | .redirection stream sign =>
      let r ← redirection g stream sign
      simple n g { s with redirections := r :: s.redirections }
    | .opening =>
      match s with
      | ⟨[], [name], []⟩ => function g name
      | _ =>
        pushBack
        return s.command
    | _ =>
      pushBack
      return s.command

def block (g : Grammar) : Parse Command := do
  match ← g.list .block with
  | some c => return c
  | none => failure

def branches : (bound : Nat) → Grammar → Parse Command
  | 0, _ => failure
  | n + 1, g => do
    let condition ← block g
    expect g (.reserved "then")
    let body ← block g
    match ← token g with
    | .reserved "elif" => return .choice condition body (some (← branches n g))
    | .reserved "else" => return .choice condition body (some (← block g))
    | _ =>
      pushBack
      return .choice condition body none

def wordsToEnd : (bound : Nat) → Grammar → Parse (List Word)
  | 0, _ => failure
  | n + 1, g => do
    match ← token g with
    | .word =>
      let w := (← get).word
      return w :: (← wordsToEnd n g)
    | .newline | .semicolon => return []
    | _ => failure

def eachLoop (g : Grammar) : Parse Command := do
  let w ← anyWord g
  let name ← (Word.literal? w : Option Text)
  if (← get).quoted || !isName name then failure
  check lineChecks
  let words ←
    match ← token g with
    | .reserved "in" => wordsToEnd g.bound g
    | .semicolon => pure [allArguments]
    | _ =>
      pushBack
      pure [allArguments]
  check lineChecks
  expect g (.reserved "do")
  return .each name words (← block g)

/-- Patterns with bars between them; the first one has been read. -/
def patterns : (bound : Nat) → Grammar → Parse (List Word)
  | 0, _ => failure
  | n + 1, g => do
    let w := (← get).word
    match ← token g with
    | .bar =>
      let _ ← token g
      return w :: (← patterns n g)
    | .closing => return [w]
    | _ => failure

def cases : (bound : Nat) → Grammar → Parse (List (List Word × Option Command))
  | 0, _ => failure
  | n + 1, g => do
    check { newlines := true, reserved := true }
    let t ← token g
    if t = .reserved "esac" then return []
    if t = .opening then
      let _ ← token g
    let ps ← patterns n g
    let body ← g.list .any
    check { newlines := true, reserved := true }
    match ← token g with
    | .reserved "esac" => return [(ps, body)]
    | .caseEnd => return (ps, body) :: (← cases n g)
    | _ => failure

def selection (g : Grammar) : Parse Command := do
  let subject ← anyWord g
  check lineChecks
  expect g (.reserved "in")
  return .select subject (← cases g.bound g)

def redirected (g : Grammar) (c : Command) : Parse Command := do
  check commandChecks
  let rs ← redirections g.bound g
  return match c with
    | .subshell body _ => .subshell body rs
    | c => if rs.isEmpty then c else .redirected c rs

def commandWith (g : Grammar) : Parse Command := do
  let closed (c : Command) (t : Token) : Parse Command := do
    expect g t
    redirected g c
  match ← token g with
  | .reserved "if" => closed (← branches g.bound g) (.reserved "fi")
  | .reserved "while" => closed (← repeated true) (.reserved "done")
  | .reserved "until" => closed (← repeated false) (.reserved "done")
  | .reserved "for" => closed (← eachLoop g) (.reserved "done")
  | .reserved "case" => redirected g (← selection g)
  | .opening => closed (.subshell (← block g) []) .closing
  | .reserved "\x7b" => closed (← block g) (.reserved "\x7d")
  | .word | .redirection .. =>
    pushBack
    simple g.bound g {}
  | _ => failure
where
  repeated (whileTrue : Bool) : Parse Command := do
    let condition ← block g
    expect g (.reserved "do")
    return .loop whileTrue condition (← block g)

def piped : (bound : Nat) → Grammar → Parse (List Command)
  | 0, _ => failure
  | n + 1, g => do
    let c ← g.command
    if (← token g) = .bar then
      check lineChecks
      return c :: (← piped n g)
    pushBack
    return [c]

def pipeline (g : Grammar) : Parse Command := do
  let negated := (← token g) = .reserved "!"
  if negated then check commandChecks else pushBack
  let c ← match ← piped g.bound g with
    | [c] => pure c
    | cs => pure (.pipeline cs true)
  return if negated then .negation c else c

def joined : (bound : Nat) → Grammar → Command → Parse Command
  | 0, _, _ => failure
  | n + 1, g, first => do
    match ← token g with
    | .both =>
      check lineChecks
      joined n g (.both first (← pipeline g))
    | .either =>
      check lineChecks
      joined n g (.either first (← pipeline g))
    | _ =>
      pushBack
      return first

def inBackground : Command → Command
  | .pipeline cs _ => .pipeline cs false
  | .redirected body rs => .background body rs
  | c => .background c []

def endsBlock : Token → Bool
  | .ended | .closing | .caseEnd => true
  | .reserved w => ["then", "elif", "else", "fi", "do", "done", "esac", "\x7d"].contains w
  | _ => false

def sequence (before : Option Command) (c : Command) : Command :=
  match before with
  | some first => .sequence first c
  | none => c

def listFrom : (bound : Nat) → Grammar → Extent → (mayEnd : Bool) → Option Command →
    Parse (Option Command)
  | 0, _, _, _, _ => failure
  | n + 1, g, extent, mayEnd, before => do
    check { newlines := extent ≠ .line, reserved := true, aliases := true }
    let finish (c : Option Command) : Parse (Option Command) := do
      documents g.bound g
      modify fun i => { i with pushed := true, last := .ended }
      return c
    match ← token g with
    | .newline =>
      documents g.bound g
      return before
    | .ended => finish before
    | t =>
      pushBack
      if mayEnd && endsBlock t then return before
      let c ← joined g.bound g (← pipeline g)
      let t ← token g
      let c := some (sequence before (if t = .background then inBackground c else c))
      match t with
      | .ended => finish c
      | .newline =>
        pushBack
        listFrom n g extent (extent ≠ .line) c
      | .background | .semicolon => listFrom n g extent (extent ≠ .line) c
      | _ =>
        if extent = .line then failure
        pushBack
        return c

def listWith (g : Grammar) (extent : Extent) : Parse (Option Command) :=
  listFrom g.bound g extent (extent == .any) none

mutual

def listAt : Nat → Extent → Parse (Option Command)
  | 0, _ => failure
  | n + 1, extent => listWith ⟨n, listAt n, commandAt n⟩ extent

def commandAt : Nat → Parse Command
  | 0 => failure
  | n + 1 => commandWith ⟨n, listAt n, commandAt n⟩

end

/-- What stands next in a script. -/
inductive Line where
  | ended
  | empty
  | command (c : Command)

def line (bound : Nat) : Parse Line := do
  modify fun i => { i with pushed := false, checks := {}, announced := [] }
  match ← listAt bound .line with
  | some c => return .command c
  | none => return if (← get).last = .ended then .ended else .empty

end Parse

end DeskConfig.Shell
