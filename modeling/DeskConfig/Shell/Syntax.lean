/-!
The language of generator commands: words that are expanded when they are used, and
commands made of them. Text is a list of bytes, each held as the character with that
code, so that a command may print what is no character at all.
-/

namespace DeskConfig.Shell

abbrev Text := List Char

/-- What is done with the value of a variable. For those with a word, the flag says
that an empty value counts as none. -/
inductive Use (Word : Type) where
  | value
  | length
  | default (emptyToo : Bool) (word : Word)
  | assign (emptyToo : Bool) (word : Word)
  | alternative (emptyToo : Bool) (word : Word)
  | complain (emptyToo : Bool) (word : Word)
  | trim (front longest : Bool) (pattern : Word)
  /-- Braces that hold no known use. They are a mistake once they are expanded. -/
  | unknown (word : Word)

inductive Opening where
  | read
  | write
  /-- Writing, even where files are to be spared. -/
  | overwrite
  | append
  | both
deriving DecidableEq

/-- A redirection of a stream, given by its number. -/
inductive Redirection (Word : Type) where
  | file (stream : Nat) (opening : Opening) (path : Word)
  | duplicate (stream : Nat) (other : Word)
  /-- Lines of the script itself, found under a number. -/
  | lines (stream : Nat) (number : Nat)

mutual

/-- A stretch of a word. -/
inductive Segment where
  | text (quoted : Bool) (cs : Text)
  /-- The beginning or the end of quotes. -/
  | mark
  | parameter (quoted : Bool) (name : Text) (use : Use (List Segment))
  | output (quoted : Bool) (script : Option Command)
  | arithmetic (quoted : Bool) (expression : List Segment)

inductive Command where
  | simple (assignments : List (Text × List Segment)) (words : List (List Segment))
      (redirections : List (Redirection (List Segment)))
  | sequence (first second : Command)
  | both (first second : Command)
  | either (first second : Command)
  | negation (command : Command)
  | pipeline (commands : List Command) (waits : Bool)
  | subshell (body : Command) (redirections : List (Redirection (List Segment)))
  | background (body : Command) (redirections : List (Redirection (List Segment)))
  | redirected (body : Command) (redirections : List (Redirection (List Segment)))
  | choice (condition body : Command) (otherwise : Option Command)
  | loop (whileTrue : Bool) (condition body : Command)
  | each (name : Text) (words : List (List Segment)) (body : Command)
  | select (subject : List Segment) (cases : List (List (List Segment) × Option Command))
  | define (name : Text) (body : Command)

end

abbrev Word := List Segment

abbrev Documents := List (Nat × Word)

/-- All arguments, in quotes. -/
def allArguments : Word := [.mark, .parameter true ['@'] .value, .mark]

def isNameStart (c : Char) : Bool := c.isAlpha || c == '_'

def isNameChar (c : Char) : Bool := c.isAlphanum || c == '_'

def isName : Text → Bool
  | [] => false
  | c :: cs => isNameStart c && cs.all isNameChar

def leadingName : Text → Text
  | [] => []
  | c :: cs => if isNameStart c then c :: cs.takeWhile isNameChar else []

def reservedWords : List String :=
  ["!", "case", "do", "done", "elif", "else", "esac", "fi", "for", "if", "in", "then", "until",
    "while", "\x7b", "\x7d"]

def isReserved (cs : Text) : Bool := reservedWords.any (·.toList == cs)

def quotedText (cs : Text) : Text :=
  let rec go : (quotes : Bool) → Text → Text
    | quotes, [] => [if quotes then '"' else '\x27']
    | false, '\x27' :: cs => '\x27' :: '"' :: '\x27' :: go true cs
    | true, '\x27' :: cs => '\x27' :: go true cs
    | true, c :: cs => '"' :: '\x27' :: c :: go false cs
    | false, c :: cs => c :: go false cs
  '\x27' :: go false cs

def textLess : Text → Text → Bool
  | [], [] => false
  | [], _ :: _ => true
  | _ :: _, [] => false
  | a :: as, b :: bs => if a = b then textLess as bs else a < b

end DeskConfig.Shell
