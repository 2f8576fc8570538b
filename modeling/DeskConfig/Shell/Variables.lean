import DeskConfig.Shell.Field
import DeskConfig.Shell.Streams

/-!
Variables, arguments and signs: what names stand for and how they change. Names can be
made constant, so that they keep their value; those that a function calls its own have
their old value back when it ends.
-/

namespace DeskConfig.Shell

namespace State

def valueOf? (s : State) (name : Text) : Option Text :=
  (lookUp name s.bindings).bind (·.value)

def spelled? (s : State) (name : String) : Option Text := s.valueOf? name.toList

def isOn (s : State) (setting : String) : Bool := s.settings.contains setting

def separators (s : State) : Text := (s.spelled? "IFS").getD blankSeparators

/-- Settings with the letters that stand for them. -/
def settingLetters : List (String × Char) :=
  [("errexit", 'e'), ("noglob", 'f'), ("noexec", 'n'), ("xtrace", 'x'), ("verbose", 'v'),
    ("noclobber", 'C'), ("allexport", 'a'), ("nounset", 'u')]

def letters (s : State) : Text :=
  (settingLetters.filterMap fun (name, letter) =>
    if s.isOn name then some letter else none).reverse

/-- The number that the shell itself has, in every shell that comes from it. -/
def processNumber : Nat := 4242

/-- The value of an argument, a sign or a variable, unless it stands for all arguments. -/
def single? (s : State) (name : Text) : Option Text :=
  match name with
  | ['?'] => some (integerText s.status)
  | ['$'] => some (integerText processNumber)
  | ['#'] => some (integerText s.args.length)
  | ['-'] => some s.letters
  | ['!'] => s.background.map fun n => integerText n
  | c :: cs =>
    if c.isDigit then
      match (Sum.digitsIn 10 0 (c :: cs)).1 with
      | 0 => some s.shell
      | n + 1 => s.args[n]?
    else s.valueOf? name
  | [] => none

/-- What a name stands for, if it stands for anything. All arguments are kept apart where
a word becomes fields, unless quotes join them. -/
def glyphsOf? (s : State) (fields quoted : Bool) (name : Text) : Option Glyphs :=
  let all (separator : List Glyph) : Glyphs :=
    separator.intercalate (s.args.map fun a => Glyphs.ofText quoted a)
  if name = ['@'] ∧ quoted ∧ fields then some (all [.cut])
  else if name = ['@'] ∨ name = ['*'] then
    match s.spelled? "IFS" with
    | none => some (all [.byte ' ' quoted])
    | some ifs =>
      if quoted ∨ !fields then
        some (all (ifs.take 1 |>.map fun c => .byte c quoted))
      else some (all [.cut])
  else (s.single? name).map (Glyphs.ofText quoted)

end State

namespace Act

/-- The search for options begins again at the argument with this number. -/
def searchFrom (value : Text) : Act Unit := do
  let n ← orFail (count? value)
  modify fun s => { s with search := { next := if n = 0 then 1 else n } }

def optionIndex : Text := "OPTIND".toList

def setMarked (name : Text) (value : Option Text) (constant : Bool) : Act Unit := do
  let before := lookUp name (← get).bindings
  if before.any (·.constant) then fail
  if name = optionIndex then searchFrom (value.getD [])
  modify fun s =>
    if value.isNone && !constant then { s with bindings := remove name s.bindings }
    else { s with bindings := put name { value, constant } s.bindings }

def setNamed (name : Text) (value : Option Text) (constant : Bool) : Act Unit := do
  if !isName name then fail
  setMarked name value constant

def assign (name value : Text) : Act Unit := setNamed name (some value) false

/-- What follows an equals sign behind the name is passed over. -/
def unset (w : Text) : Act Unit := setNamed (w.takeWhile (· != '=')) none false

/-- Puts a variable back as it was. -/
def restore (l : Local) : Act Unit := do
  if l.name = optionIndex then
    match l.before.bind (·.value) with
    | some value => let _ ← attempt (searchFrom value)
    | none => pure ()
  modify fun s => match l.before with
    | some v => { s with bindings := put l.name v s.bindings }
    | none => { s with bindings := remove l.name s.bindings }

def keep (l : Local) : Act Unit := modify fun s =>
  match s.frames with
  | frame :: frames => { s with frames := (l :: frame) :: frames }
  | [] => s

def makeLocal (name : Text) (value : Option Text) : Act Unit := do
  let before := lookUp name (← get).bindings
  keep { name, before }
  match before, value with
  | none, none =>
    if !isName name then fail
    modify fun s => { s with bindings := put name { value := none } s.bindings }
  | some _, none => pure ()
  | _, some value => setMarked name (some value) false

def pushFrame : Act Unit := modify fun s => { s with frames := [] :: s.frames }

/-- Puts back what has been made local since there were so many frames. -/
def popFrames (depth : Nat) : Act Unit := do
  let s ← get
  let inner := s.frames.take (s.frames.length - depth)
  set { s with frames := s.frames.drop inner.length }
  for l in inner.flatten do restore l

def numberOf (name : Text) : Act Int := do
  orFail (integer? true (((← get).valueOf? name).getD []))

def compute : Sum → Act Int
  | .number n => return n
  | .variable name => numberOf name
  | .negated a => do return Sum.wrap (-(← compute a))
  | .complement a => do return -(← compute a) - 1
  | .not a => do return Sum.truth ((← compute a) == 0)
  | .operation o a b => do
    let a ← compute a
    let b ← compute b
    result (Sum.compute o a b)
  | .both a b => do
    if (← compute a) = 0 then return 0
    return Sum.truth ((← compute b) != 0)
  | .either a b => do
    if (← compute a) ≠ 0 then return 1
    return Sum.truth ((← compute b) != 0)
  | .choice condition a b => do
    if (← compute condition) ≠ 0 then compute a else compute b
  | .assignment name o a => do
    let value ← compute a
    let value ← match o with
      | none => pure value
      | some o => result (Sum.compute o (← numberOf name) value)
    assign name (integerText value)
    return value
where
  result : Sum.Outcome → Act Int
    | .value n => pure n
    | .undefined => fail
    | .overflow => throw (.killed 8)

end Act

end DeskConfig.Shell
