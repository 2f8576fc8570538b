import DeskConfig.Shell.Variables

/-!
Arguments: the letters that commands take in front of their arguments, and the commands
that change or search the arguments of the shell itself.
-/

namespace DeskConfig.Shell

/-- The letters of one word. The last one may be waiting for its value. -/
def optionLetters (plain valued : Text) :
    Text → Option (List (Char × Text) × Option Char)
  | [] => some ([], none)
  | c :: cs =>
    if valued.contains c then
      if cs.isEmpty then some ([], some c) else some ([(c, cs)], none)
    else if plain.contains c then
      (optionLetters plain valued cs).map fun (found, waiting) => ((c, []) :: found, waiting)
    else none

def optionsOf (plain valued : Text) : List Text → Option (List (Char × Text) × List Text)
  | ['-', '-'] :: args => some ([], args)
  | ('-' :: c :: cs) :: args =>
    match optionLetters plain valued (c :: cs), args with
    | some (found, none), args =>
      (optionsOf plain valued args).map fun (more, args) => (found ++ more, args)
    | some (found, some letter), value :: args =>
      (optionsOf plain valued args).map fun (more, args) =>
        (found ++ (letter, value) :: more, args)
    | _, _ => none
  | args => some ([], args)

namespace Act

def options (plain valued : String) (args : List Text) :
    Act (List (Char × Text) × List Text) :=
  orFail (optionsOf plain.toList valued.toList args)

def noOptions (args : List Text) : Act (List Text) := do return (← options "" "" args).2

def countOr (default : Nat) : List Text → Act Nat
  | [] => return default
  | w :: _ => orFail (count? w)

def setArguments (args : List Text) : Act Unit := modify fun s => { s with args, search := {} }

def shift (args : List Text) : Act Nat := do
  let n ← countOr 1 args
  let s ← get
  if n > s.args.length then fail
  setArguments (s.args.drop n)
  return 0

def wanted? (letter : Char) : (letters : Text) → Option Bool
  | [] => none
  | c :: ':' :: rest => if c = letter then some true else wanted? letter rest
  | c :: rest => if c = letter then some false else wanted? letter rest

/-- What a step of the search has found: the letter, its value, the place of the next
argument, and how much of the last one has been taken. -/
structure Hit where
  letter : Char
  value : Option Text
  next : Nat
  taken : Option Nat := none
  done : Bool := false

def begunArgument (search : Search) (args : List Text) : Text :=
  match search.taken with
  | some taken => if search.next ≤ 1 then [] else (args.getD (search.next - 2) []).drop taken
  | none => []

/-- One step of the search for letters. With a colon in front of the letters nothing is
said about mistakes, and the letter in question becomes the value. -/
def searchStep (spec : Text) (search : Search) (args : List Text) : Hit :=
  let quiet := spec.head? == some ':'
  let ended (next : Nat) : Hit := { letter := '?', value := none, next, done := true }
  let wrong (c : Char) (sign : Char) (next : Nat) (rest : Text) (old : Text) : Hit :=
    { letter := if quiet then sign else '?', value := if quiet then some [c] else none, next
      taken := some (old.length - rest.length) }
  let found (next : Nat) (whole : Text) : Text → Hit
    | [] => ended next
    | c :: rest =>
      match wanted? c (if quiet then spec.drop 1 else spec) with
      | none => wrong c '?' next rest whole
      | some false =>
        { letter := c, value := some [], next, taken := some (whole.length - rest.length) }
      | some true =>
        match rest, args[next - 1]? with
        | [], none => wrong c ':' next rest whole
        | [], some value => { letter := c, value := some value, next := next + 1 }
        | rest, _ => { letter := c, value := some rest, next }
  match begunArgument search args with
  | c :: rest => found search.next (args.getD (search.next - 2) []) (c :: rest)
  | [] =>
    match args[search.next - 1]? with
    | some ['-', '-'] => ended (search.next + 1)
    | some ('-' :: c :: rest) => found (search.next + 1) ('-' :: c :: rest) (c :: rest)
    | _ => ended search.next

def getopts (args : List Text) : Act Nat := do
  match ← noOptions args with
  | spec :: name :: own =>
    let s ← get
    let among := if own.isEmpty then s.args else own
    let search := if s.search.next > among.length + 1 then {} else s.search
    let hit := searchStep spec search among
    set { s with search := {} }
    if !hit.done then
      match hit.value with
      | some value => assign "OPTARG".toList value
      | none => unset "OPTARG".toList
    setQuietly optionIndex (integerText hit.next)
    assign name [hit.letter]
    modify fun s => { s with search := { next := hit.next, taken := hit.taken } }
    return if hit.done then 1 else 0
  | _ => fail
where
  /-- The search itself goes on. -/
  setQuietly (name value : Text) : Act Unit := do
    let search := (← get).search
    assign name value
    modify fun s => { s with search }

def switch (on : Bool) (name : String) : Act Unit := modify fun s =>
  let others := s.settings.filter (· != name)
  { s with settings := if on then name :: others else others }

/-- Switches the settings of one word; those with names take them from the words behind it. -/
def switchWord (on : Bool) : Text → List Text → Act (List Text)
  | [], args => return args
  | 'o' :: cs, spelled :: args => do
    let (name, _) ← orFail (State.settingLetters.find? (·.1.toList == spelled))
    switch on name
    switchWord on cs args
  | c :: cs, args => do
    let (name, _) ← orFail (State.settingLetters.find? (·.2 == c))
    switch on name
    switchWord on cs args

def setFrom : (bound : Nat) → List Text → Act Nat
  | 0, _ => fail
  | _ + 1, [] => return 0
  | n + 1, w :: args => do
    match w with
    | ['-'] =>
      switch false "xtrace"
      switch false "verbose"
      if !args.isEmpty then setArguments args
      return 0
    | ['-', '-'] =>
      setArguments args
      return 0
    | '-' :: cs => setFrom n (← switchWord true cs args)
    | '+' :: cs => setFrom n (← switchWord false cs args)
    | _ =>
      setArguments (w :: args)
      return 0

end Act

end DeskConfig.Shell
