import DeskConfig.Shell.Expansion

/-!
Redirections: the targets of all of them are expanded first, then each stream is opened
in turn. Streams that have been redirected lead back to where they did when the command
has ended.
-/

namespace DeskConfig.Shell.Act

def redirectedStream : Redirection Word → Nat
  | .file stream .. | .duplicate stream _ | .lines stream _ => stream

/-- Where another stream is meant, only a digit or a minus sign may stand. -/
def isStreamSign (w : Text) : Bool :=
  match w with
  | [c] => c.isDigit || c == '-'
  | _ => false

def targets (e : Engine) : List (Redirection Word) → Act (List (Redirection Text))
  | [] => return []
  | r :: rest => do
    let target ← match r with
      | .file stream opening w => do pure (.file stream opening (← expandText e w))
      | .lines stream number => pure (.lines stream number)
      | .duplicate stream w => do
        let sign ← expandText e w
        if !isStreamSign sign then fail
        pure (.duplicate stream sign)
    return target :: (← targets e rest)

/-- Makes one redirection. -/
def redirectOne (e : Engine) : Redirection Text → Act Unit
  | .file stream opening path => do
    connect stream (← orFail (← openPath opening path))
  | .lines stream number => do
    let body := (lookUp number (← get).documents).getD []
    let pipe ← newPipe (Glyphs.text (← expand e { home := false } body))
    connect stream (← openStream { target := .pipe pipe, reads := true })
  | .duplicate stream sign => do
    if sign == ['-'] then disconnect stream
    else
      let other := (Sum.digitsIn 10 0 sign).1
      if other ≠ stream then connect stream (← orFail (lookUp other (← get).streams))

def redirect (e : Engine) (rs : List (Redirection Text)) : Act Unit :=
  rs.forM (redirectOne e)

def redirects (e : Engine) (rs : List (Redirection Text)) : Act Bool := do
  match ← attempt (redirect e rs) with
  | .ok _ => return true
  | .error .mistake => return false
  | .error stop => throw stop

/-- Lets streams lead to where they did in a state before. -/
def reconnect (before : State) (streams : List Nat) : Act Unit :=
  streams.forM fun stream =>
    match lookUp stream before.streams with
    | some number => connect stream number
    | none => disconnect stream

end DeskConfig.Shell.Act
