import DeskConfig.Shell.Arithmetic

/-!
The two commands that print: plain words, and words laid out by a format. Both know
escapes with a backslash, octal codes among them. A format is used again as long as
there are words left for it.
-/

namespace DeskConfig.Shell

def isOctal (c : Char) : Bool := '0' ≤ c && c ≤ '7'

def octalFrom : (count value : Nat) → Text → Nat × Text
  | count + 1, value, c :: cs =>
    if isOctal c then octalFrom count (8 * value + (c.toNat - '0'.toNat)) cs else (value, c :: cs)
  | _, value, cs => (value, cs)

def byteChar (n : Nat) : Char := Char.ofNat (n % 256)

/-- What follows a backslash. Where it is no escape, the backslash stands for itself. -/
def escape : Text → Char × Text
  | 'a' :: cs => ('\x07', cs)
  | 'b' :: cs => ('\x08', cs)
  | 'e' :: cs => ('\x1b', cs)
  | 'f' :: cs => ('\x0c', cs)
  | 'n' :: cs => ('\n', cs)
  | 'r' :: cs => ('\r', cs)
  | 't' :: cs => ('\t', cs)
  | 'v' :: cs => ('\x0b', cs)
  | '\\' :: cs => ('\\', cs)
  | c :: cs =>
    if isOctal c then
      let (value, rest) := octalFrom 3 0 (c :: cs)
      (byteChar value, rest)
    else ('\\', c :: cs)
  | [] => ('\\', [])

/-- Decodes the escapes of a word; `\c` ends the output, which the flag tells. -/
def unescapeWord : Nat → Text → Text × Bool
  | 0, _ => ([], false)
  | _ + 1, [] => ([], false)
  | n + 1, '\\' :: cs =>
    match cs with
    | 'c' :: _ => ([], true)
    | _ =>
      let cs := match cs with
        | '0' :: d :: rest => if isOctal d then d :: rest else cs
        | _ => cs
      let (c, rest) := escape cs
      let (more, ended) := unescapeWord n rest
      (c :: more, ended)
  | n + 1, c :: cs =>
    let (more, ended) := unescapeWord n cs
    (c :: more, ended)

def unescaped (cs : Text) : Text × Bool := unescapeWord (cs.length + 1) cs

def echoWords : List Text → Text × Bool
  | [] => ([], false)
  | [w] => unescaped w
  | w :: ws =>
    let (text, ended) := unescaped w
    if ended then (text, true)
    else
      let (more, ended) := echoWords ws
      (text ++ ' ' :: more, ended)

/-- Words with blanks between them. A first word `-n` leaves out the line feed. -/
def echo (args : List Text) : Text :=
  match args with
  | ['-', 'n'] :: rest => (echoWords rest).1
  | args =>
    let (text, ended) := echoWords args
    if ended then text else text ++ ['\n']

/-- How a word is laid out. -/
structure Layout where
  left : Bool := false
  plus : Bool := false
  space : Bool := false
  zero : Bool := false
  alternate : Bool := false
  width : Nat := 0
  precision : Option Nat := none

def Layout.flags : Nat → Layout → Text → Layout × Text
  | 0, l, cs => (l, cs)
  | n + 1, l, c :: cs =>
    if c = '-' then flags n { l with left := true } cs
    else if c = '+' then flags n { l with plus := true } cs
    else if c = ' ' then flags n { l with space := true } cs
    else if c = '0' then flags n { l with zero := true } cs
    else if c = '#' then flags n { l with alternate := true } cs
    else (l, c :: cs)
  | _ + 1, l, [] => (l, [])

def pad (l : Layout) (fill : Char) (cs : Text) : Text :=
  let missing := l.width - cs.length
  if l.left then cs ++ List.replicate missing ' ' else List.replicate missing fill ++ cs

def layText (l : Layout) (cs : Text) : Text :=
  pad l ' ' (match l.precision with
    | some p => cs.take p
    | none => cs)

/-- Digits, with zeros in front up to the precision or the width. -/
def layDigits (l : Layout) (sign digits : Text) : Text :=
  let digits := match l.precision with
    | some 0 => if digits = ['0'] then [] else digits
    | some p => List.replicate (p - digits.length) '0' ++ digits
    | none => digits
  if l.zero && !l.left && l.precision.isNone then
    sign ++ List.replicate (l.width - sign.length - digits.length) '0' ++ digits
  else pad l ' ' (sign ++ digits)

def layInteger (l : Layout) (n : Int) : Text :=
  let sign := if n < 0 then ['-'] else if l.plus then ['+'] else if l.space then [' '] else []
  layDigits l sign (Nat.toDigits 10 n.natAbs)

def layUnsigned (l : Layout) (base : Nat) (upper : Bool) (n : Int) : Text :=
  let value := (n % 18446744073709551616).toNat
  let digits := Nat.toDigits base value
  let digits := if upper then digits.map Char.toUpper else digits
  let mark := if l.alternate && base == 16 && value != 0 then
      (if upper then ['0', 'X'] else ['0', 'x'])
    else if l.alternate && base == 8 && value != 0 then ['0'] else []
  layDigits l mark digits

/-- A word as a number: where a quote stands first, the code of the character behind it.
With it goes whether the word is nothing but that number and the number is in range. -/
def numberOf (low high : Int) (w : Text) : Int × Bool :=
  match w with
  | '\x27' :: cs | '"' :: cs => ((cs.head?.map fun c => (c.toNat : Int)).getD 0, true)
  | w =>
    let (negative, digits) := match w.dropWhile isNumberBlank with
      | '-' :: rest => (true, rest)
      | '+' :: rest => (false, rest)
      | rest => (false, rest)
    let (n, rest) := Sum.magnitude digits
    let n : Int := if negative then -(n : Int) else n
    if digits.head?.any Char.isDigit then
      (max low (min high n), rest.isEmpty && low ≤ n && n ≤ high)
    else (0, w.isEmpty)

/-- What a format has printed so far. -/
structure Printed where
  text : Text := []
  status : Nat := 0
  args : List Text
  used : Bool := false
  ended : Bool := false

def Printed.put (p : Printed) (cs : Text) : Printed := { p with text := p.text ++ cs }

def Printed.next (p : Printed) : Option Text × Printed :=
  match p.args with
  | [] => (none, p)
  | a :: rest => (some a, { p with args := rest, used := true })

def Printed.nextNumber (low high : Int) (p : Printed) : Int × Printed :=
  match p.next with
  | (none, p) => (0, p)
  | (some w, p) =>
    let (n, whole) := numberOf low high w
    (n, if whole then p else { p with status := 1 })

def Printed.nextInteger : Printed → Int × Printed :=
  nextNumber (-9223372036854775808) 9223372036854775807

/-- Numbers without a sign have 64 bits; a minus counts down from the first that does not
fit. -/
def Printed.nextUnsigned : Printed → Int × Printed :=
  nextNumber (-18446744073709551615) 18446744073709551615

def count (p : Printed) : Text → Option Int × Printed × Text
  | '*' :: cs =>
    let (n, p) := p.nextInteger
    (some (Int.bmod n 4294967296), p, cs)
  | cs =>
    match cs.takeWhile Char.isDigit with
    | [] => (none, p, cs)
    | digits => (some (Sum.digitsIn 10 0 digits).1, p, cs.drop digits.length)

def conversion (l : Layout) (c : Char) (p : Printed) : Option Printed :=
  match c with
  | 's' =>
    let (w, p) := p.next
    some (p.put (layText l (w.getD [])))
  | 'c' =>
    let (w, p) := p.next
    some (p.put (pad l ' ' [(w.getD []).headD '\x00']))
  | 'b' =>
    let (w, p) := p.next
    let (text, ended) := unescaped (w.getD [])
    some { p.put (layText l text) with ended }
  | 'd' | 'i' =>
    let (n, p) := p.nextInteger
    some (p.put (layInteger l n))
  | 'u' | 'o' | 'x' | 'X' =>
    let (n, p) := p.nextUnsigned
    let base := if c = 'u' then 10 else if c = 'o' then 8 else 16
    some (p.put (layUnsigned l base (c == 'X') n))
  | _ => none

def formatOnce : Nat → Printed → Text → Printed
  | 0, p, _ => p
  | _ + 1, p, [] => p
  | n + 1, p, '\\' :: cs =>
    let (c, rest) := escape cs
    formatOnce n (p.put [c]) rest
  | n + 1, p, '%' :: '%' :: cs => formatOnce n (p.put ['%']) cs
  | n + 1, p, '%' :: cs =>
    let (l, cs) := Layout.flags cs.length {} cs
    let (width, p, cs) := count p cs
    let l := { l with
      width := (width.getD 0).natAbs, left := l.left || (width.getD 0) < 0 }
    let (l, p, cs) := match cs with
      | '.' :: cs =>
        let (precision, p, cs) := count p cs
        let precision := precision.getD 0
        ({ l with precision := if precision < 0 then none else some precision.toNat }, p, cs)
      | cs => (l, p, cs)
    match cs with
    | [] => { p with status := 2, ended := true }
    | c :: cs =>
      match conversion l c p with
      | none => { p with status := 2, ended := true }
      | some p => if p.ended then p else formatOnce n p cs
  | n + 1, p, c :: cs => formatOnce n (p.put [c]) cs

def formatAll : Nat → Printed → Text → Printed
  | 0, p, _ => p
  | n + 1, p, format =>
    let p := formatOnce (format.length + 1) { p with used := false } format
    if p.ended || !p.used || p.args.isEmpty then p else formatAll n p format

def printf (args : List Text) : Text × Nat :=
  let print (args : List Text) : Text × Nat :=
    match args with
    | [] => ([], 2)
    | format :: words =>
      let p := formatAll (words.length + 1) { args := words } format
      (p.text, p.status)
  match args with
  | ['-', '-'] :: rest => print rest
  | ('-' :: c :: cs) :: rest => if cs.isEmpty && c == '-' then print rest else ([], 2)
  | args => print args

end DeskConfig.Shell
