/-!
The values that a filter may ask of a field: truth values, numbers, and patterns of text.
Only whether a text is one of these matters, since no field here ever has such a value.
Patterns have groups, choices, repetitions and brackets; classes that need tables of all
scripts, looking around and going back to groups are not known.
-/

namespace DeskConfig.ValuePattern

/-- Digits in front, and whether there are any. -/
def passDigits (cs : List Char) : Bool × List Char :=
  ((cs.head?).any Char.isDigit, cs.dropWhile Char.isDigit)

def isExponent : List Char → Bool
  | [] => true
  | e :: cs =>
    (e == 'e' || e == 'E') &&
      (let cs := match cs with
        | '+' :: rest | '-' :: rest => rest
        | cs => cs
      !cs.isEmpty && cs.all Char.isDigit)

/-- A number without a sign, in decimal notation or by name. -/
def isNumber (cs : List Char) : Bool :=
  let named := ["inf", "infinity", "nan"].any (·.toList == cs.map Char.toLower)
  let (whole, rest) := passDigits cs
  named || match rest with
    | '.' :: rest =>
      let (part, rest) := passDigits rest
      (whole || part) && isExponent rest
    | rest => whole && isExponent rest

def isHex (c : Char) : Bool := c.isDigit || ('a' ≤ c && c ≤ 'f') || ('A' ≤ c && c ≤ 'F')

/-- What follows an escape, its backslash passed. Of the letters only those of control
characters, of codes in hexadecimal and, outside brackets, of the ends of the text mean
something. -/
def afterEscape (bracket : Bool) : List Char → Option (List Char)
  | [] => none
  | c :: cs =>
    let code (n : Nat) : Option (List Char) :=
      if n ≤ cs.length && (cs.take n).all isHex then some (cs.drop n) else none
    match c with
    | 'x' => code 2
    | 'u' => code 4
    | 'U' => code 8
    | c =>
      if "aftnrv".toList.contains c || (!bracket && (c == 'A' || c == 'z')) then some cs
      else if c.toNat < 128 && !c.isAlphanum && c != '<' && c != '>' then some cs
      else none

/-- A character of a bracket and what follows it. -/
def bracketChar : List Char → Option (Char × List Char)
  | [] => none
  | '\\' :: cs => (afterEscape true cs).map fun rest => (cs.headD '\\', rest)
  | c :: cs => some (c, cs)

/-- What follows a bracket that is open. Brackets may stand in each other. -/
def afterBracket : (bound depth : Nat) → (first : Bool) → List Char → Option (List Char)
  | 0, _, _, _ => none
  | n + 1, depth, first, cs =>
    match cs with
    | [] => none
    | '^' :: rest => if first then afterFirst n depth rest else item n depth ('^' :: rest)
    | ']' :: rest =>
      if first then item n depth (']' :: rest)
      else
        match depth with
        | 0 => some rest
        | depth + 1 => afterBracket n depth false rest
    | '[' :: rest => afterBracket n (depth + 1) true rest
    | cs => item n depth cs
where
  afterFirst (n depth : Nat) : List Char → Option (List Char)
    | ']' :: rest => item n depth (']' :: rest)
    | cs => afterBracket n depth false cs
  item (n depth : Nat) (cs : List Char) : Option (List Char) := do
    let (c, rest) ← bracketChar cs
    match rest with
    | '-' :: d :: more =>
      if d = ']' ∨ d = '-' then afterBracket n depth false rest
      else
        let (d, more) ← bracketChar (d :: more)
        if c ≤ d then afterBracket n depth false more else none
    | rest => afterBracket n depth false rest

/-- What follows the marks at the start of a group, and whether the group stays open. -/
def afterMarks (cs : List Char) : Option (List Char × Bool) :=
  let cs := match cs with
    | 'P' :: '<' :: rest => '<' :: rest
    | cs => cs
  match cs with
  | '<' :: cs =>
    let name := cs.takeWhile (· != '>')
    if name.isEmpty || !name.all (fun c => c.isAlphanum || c == '_') ||
        (name.head?.any Char.isDigit) then none
    else (cs.drop name.length).tail?.map fun rest => (rest, true)
  | cs =>
    let flags := cs.takeWhile fun c => "msUuxR-".toList.contains c
    match cs.drop flags.length with
    | ':' :: rest => some (rest, true)
    | ')' :: rest => if flags.isEmpty then none else some (rest, false)
    | _ => none

/-- Whether the rest of a pattern is well formed, inside so many groups. A repetition
needs something before it. -/
def isPatternFrom : (bound depth : Nat) → (something : Bool) → List Char → Bool
  | 0, _, _, _ => false
  | _ + 1, depth, _, [] => depth == 0
  | n + 1, depth, something, c :: cs =>
    match c with
    | '*' | '+' | '?' =>
      something && isPatternFrom n depth true (if cs.head? == some '?' then cs.drop 1 else cs)
    | '{' => false
    | '|' => isPatternFrom n depth false cs
    | ')' => 0 < depth && isPatternFrom n (depth - 1) true cs
    | '[' =>
      match afterBracket (cs.length + 1) 0 true cs with
      | some rest => isPatternFrom n depth true rest
      | none => false
    | '\\' =>
      match afterEscape false cs with
      | some rest => isPatternFrom n depth true rest
      | none => false
    | '(' =>
      match cs with
      | '?' :: rest =>
        match afterMarks rest with
        | some (rest, stays) => isPatternFrom n (if stays then depth + 1 else depth) false rest
        | none => false
      | cs => isPatternFrom n (depth + 1) false cs
    | _ => isPatternFrom n depth true cs

/-- Whether a text is a value that can be asked for. -/
def isValue (cs : List Char) : Bool :=
  match cs with
  | '+' :: rest => isNumber rest
  | cs => isPatternFrom (cs.length + 1) 0 false cs

end DeskConfig.ValuePattern
