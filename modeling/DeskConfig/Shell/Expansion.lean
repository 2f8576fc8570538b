import DeskConfig.Shell.Pattern
import DeskConfig.Shell.Process

/-!
Expanding words: home folders, variables, the output of commands and arithmetic. A word
becomes one text, a pattern, or as many fields as it has, in which patterns stand for
the files that fit them.
-/

namespace DeskConfig.Shell

/-- What a word is expanded for. -/
structure Purpose where
  /-- Fields, so that arguments are kept apart. -/
  fields : Bool := false
  /-- Whether a home folder may stand at the start. -/
  home : Bool := true
  /-- A value, where a home folder may stand behind each colon. -/
  value : Bool := false
  /-- A word in braces outside quotes, whose own text may be split. -/
  inner : Bool := false

namespace Expansion

/-- The home folder that a tilde stands for, and what follows it. It has to end in the text
unless the word does. -/
def home? (s : State) (value last : Bool) (cs : Text) : Option (Text × Text) :=
  match cs with
  | [] => if last then (s.spelled? "HOME").map fun f => (f, []) else none
  | c :: _ =>
    if c == '/' || (value && c == ':') then (s.spelled? "HOME").map fun f => (f, cs) else none

/-- Text of a word outside quotes, with the home folders in it. -/
def plain : (bound : Nat) → State → Purpose → (last start : Bool) → Text → Glyphs
  | 0, _, _, _, _, _ => []
  | _, _, _, _, _, [] => []
  | n + 1, s, p, last, start, c :: cs =>
    match if start && c == '~' then home? s p.value last cs else none with
    | some (folder, rest) => Glyphs.ofText true folder ++ plain n s p last false rest
    | none =>
      let stop (c : Char) : Bool := p.value && c == ':'
      let text := cs.takeWhile (!stop ·)
      let (text, start) := if stop c then ([c], true)
        else (c :: text ++ ((cs.drop text.length).take 1), (cs.drop text.length).length > 0)
      let glyphs := Glyphs.ofText false text
      (if p.inner then Glyphs.stretch false glyphs else glyphs) ++
        plain n s p last start ((c :: cs).drop text.length)

/-- What is trimmed may be several arguments; a pattern only sees up to the first end of
one. -/
def trimmedAll (front longest : Bool) (pattern : Text) (gs : Glyphs) : Glyphs :=
  let items := Pattern.items pattern
  let text : Glyphs → Text := fun gs => Glyphs.text (gs.takeWhile (· != .cut))
  let lengths := List.range (gs.length + 1)
  let lengths := if longest then lengths.reverse else lengths
  let off (k : Nat) : Glyphs := if front then gs.take k else gs.drop (gs.length - k)
  match lengths.find? fun k => Pattern.isMatch items (text (off k)) with
  | some k => if front then gs.drop k else gs.take (gs.length - k)
  | none => gs

def withoutFinalNewlines (cs : Text) : Text := (cs.reverse.dropWhile (· == '\n')).reverse

end Expansion

namespace Act

open Expansion

def result (quoted : Bool) (gs : Glyphs) : Glyphs :=
  if quoted then gs else Glyphs.stretch false gs

/-- The value of a name in a word. All arguments in quotes are a stretch of their own. -/
def valueGlyphs (s : State) (quoted : Bool) (name : Text) (gs : Glyphs) : Glyphs :=
  if quoted && name == ['@'] && !s.args.isEmpty then Glyphs.stretch true gs
  else result quoted gs

def outputOf (e : Engine) : Option Command → Act Text
  | none => pure []
  | some c => do
    let (text, status) ← captured e (e.run false c)
    modify fun s => { s with substituted := status }
    return withoutFinalNewlines (text.filter (· != '\x00'))

/-- How a word inside a word is expanded. -/
abbrev Expander := Purpose → Word → Act Glyphs

def parameter (expand : Expander) (p : Purpose) (quoted : Bool) (name : Text)
    (use : Use Word) : Act Glyphs := do
  let s ← get
  let value := s.glyphsOf? p.fields quoted name
  let isNone (emptyToo : Bool) : Bool := value.all fun gs => emptyToo && gs.isEmpty
  let own : Glyphs := match value with
    | some gs => valueGlyphs s quoted name gs
    | none => []
  let inner (w : Word) : Act Glyphs :=
    expand { p with home := true, inner := !quoted } w
  let text (w : Word) : Act Text := do return Glyphs.text (← expand {} w)
  let known : Act Unit := do if s.isOn "nounset" && value.isNone then fail
  match use with
  | .value => do known; return own
  | .length => do
    known
    return result quoted (Glyphs.ofText quoted (integerText (value.getD []).length))
  | .default emptyToo w => if isNone emptyToo then inner w else return own
  | .alternative emptyToo w => if isNone emptyToo then return [] else inner w
  | .assign emptyToo w =>
    if isNone emptyToo then do
      assign name (← text w)
      let s ← get
      return valueGlyphs s quoted name ((s.glyphsOf? p.fields quoted name).getD [])
    else return own
  | .complain emptyToo w =>
    if isNone emptyToo then do
      let _ ← text w
      fail
    else return own
  | .trim front longest w => do
    known
    match value with
    | none => return []
    | some gs =>
      let pattern := Glyphs.pattern (← expand {} w)
      return valueGlyphs s quoted name (trimmedAll front longest pattern gs)
  | .unknown _ => fail

def arithmetic (expand : Expander) (quoted : Bool) (w : Word) : Act Glyphs := do
  let text := Glyphs.text (← expand { home := false } w)
  let a ← orFail (Sum.ofText? text)
  return result quoted (Glyphs.ofText quoted (integerText (← compute a)))

/-- Expands the segments of a word in turn. Arguments in quotes of their own make no field
if there are none. -/
def expandFrom : (bound : Nat) → Engine → (start : Bool) → Expander
  | 0, _, _, _, _ => fail
  | _, _, _, _, [] => return []
  | n + 1, e, _, p, .mark :: .parameter true ['@'] .value :: .mark :: rest => do
    let gs ← parameter (fun _ _ => fail) p true ['@'] .value
    return gs ++ (← expandFrom n e false p rest)
  | n + 1, e, start, p, s :: rest => do
    let inside : Expander := expandFrom n e true
    let gs ← match s with
      | .text true cs => pure (Glyphs.ofText true cs)
      | .text false cs =>
        pure (plain (cs.length + 1) (← get) p rest.isEmpty (start && p.home) cs)
      | .mark => pure [.mark]
      | .parameter quoted name use => parameter inside p quoted name use
      | .output quoted script => do
        let text ← outputOf e script
        pure (result quoted (Glyphs.ofText quoted text))
      | .arithmetic quoted w => arithmetic inside quoted w
    return gs ++ (← expandFrom n e false p rest)

def expand (e : Engine) (p : Purpose) (w : Word) : Act Glyphs :=
  expandFrom e.bound e true p w

def expandText (e : Engine) (w : Word) : Act Text := do
  return Glyphs.text (← expand e {} w)

def expandPattern (e : Engine) (w : Word) : Act Text := do
  return Glyphs.pattern (← expand e {} w)

def expandValue (e : Engine) (w : Word) : Act Text := do
  return Glyphs.text (← expand e { value := true } w)

def hasPattern : Text → Bool
  | [] => false
  | '\\' :: _ :: cs => hasPattern cs
  | '[' :: cs => closes cs || hasPattern cs
  | c :: cs => c == '*' || c == '?' || hasPattern cs
where
  closes (cs : Text) : Bool :=
    let cs := if cs.head? == some '!' then cs.drop 1 else cs
    (go (cs.drop (if cs.head? == some '\\' then 2 else 1)))
  go : Text → Bool
    | [] => false
    | ']' :: _ => true
    | '\\' :: _ :: cs => go cs
    | _ :: cs => go cs

/-- A pattern's parts between slashes, which a backslash may stand before. -/
def partsFrom (part : Text) : Text → List Text
  | [] => [part.reverse]
  | '\\' :: '/' :: cs => part.reverse :: partsFrom [] cs
  | '\\' :: c :: cs => partsFrom (c :: '\\' :: part) cs
  | '/' :: cs => part.reverse :: partsFrom [] cs
  | c :: cs => partsFrom (c :: part) cs

def pathsFrom : (found : Text) → (parts : List Text) → Act (List Text)
  | _, [] => return []
  | found, part :: parts => do
    if !hasPattern part then
      let path := found ++ Pattern.spelling part
      if parts.isEmpty then
        if path.isEmpty then return []
        return if (← entryOf path) = .nothing then [] else [path]
      pathsFrom (path ++ ['/']) parts
    else
      match ← entryOf (if found.isEmpty then ['.'] else found) with
      | .folder names =>
        let hidden := (Pattern.spelling part).head? == some '.'
        let names := (['.'] :: ['.', '.'] :: names).filter fun name =>
          (hidden || name.head? != some '.') && Pattern.fits part name
        let mut paths := []
        for name in names do
          if parts.isEmpty then paths := (found ++ name) :: paths
          else paths := (← pathsFrom (found ++ name ++ ['/']) parts) ++ paths
        return paths
      | _ => return []

def filesOf (gs : Glyphs) : Act (List Text) := do
  let pattern := Glyphs.pattern gs
  if (← get).isOn "noglob" || Pattern.isPlain pattern then return [Glyphs.text gs]
  match ← pathsFrom [] (partsFrom [] pattern) with
  | [] => return [Glyphs.text gs]
  | paths => return paths.mergeSort fun a b => !textLess b a

def expandFields (e : Engine) (w : Word) : Act (List Text) := do
  let gs ← expand e { fields := true } w
  let mut fields := []
  for field in fieldsOf (← get).separators gs do
    fields := fields ++ (← filesOf field)
  return fields

def expandAll (e : Engine) (ws : List Word) : Act (List Text) := do
  let mut fields := []
  for w in ws do
    fields := fields ++ (← expandFields e w)
  return fields

end Act

end DeskConfig.Shell
