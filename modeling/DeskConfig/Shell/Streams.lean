import DeskConfig.Shell.State
import DeskConfig.Text.Utf8

/-!
Files and streams. Paths are followed name by name from the folder a shell is in. A
stream number leads to an open stream, which other numbers and other shells may share.
-/

namespace DeskConfig.Shell

namespace Path

def start : Path := ["tmp".toList, "work".toList]

def splitFrom (name : Text) : Text → List Text
  | [] => [name.reverse]
  | '/' :: cs => name.reverse :: splitFrom [] cs
  | c :: cs => splitFrom (c :: name) cs

def split (cs : Text) : List Text := splitFrom [] cs

def joined (names : List Text) : Text := ((names.map fun n => '/' :: n).flatten)

def text (p : Path) : Text := if p.isEmpty then ['/'] else joined p

/-- How files around the run are asked for: paths in the folder of the run from there. -/
def key (p : Path) : Text :=
  if start.isPrefixOf p then
    match p.drop start.length with
    | [] => ['.']
    | names => (joined names).drop 1
  else text p

/-- Folders that are always there. -/
def folders : List Path :=
  ["/", "/bin", "/dev", "/etc", "/home", "/lib", "/tmp", "/usr", "/usr/bin", "/usr/lib",
    "/usr/share", "/var"].map fun p => (split p.toList).filter (!·.isEmpty)

/-- What is there whatever files there are. -/
def standard? (p : Path) : Option Entry :=
  match String.ofList (text p) with
  | "/dev/null" => some .emptiness
  | "/dev/stdin" => some (.stream 0)
  | "/dev/stdout" => some (.stream 1)
  | "/dev/stderr" => some (.stream 2)
  | _ => none

def standardNames (p : Path) : List Text :=
  folders.filterMap fun q => if !q.isEmpty && q.dropLast == p then q.getLast? else none

end Path

/-- Bytes of a text held as characters, and back. -/
def textOf (bytes : List UInt8) : Text := bytes.map fun b => Char.ofNat b.toNat

def ofString (s : String) : Text := textOf s.toUTF8.toList

def bytesOf (cs : Text) : List UInt8 := cs.map fun c => c.toNat.toUInt8

def stringOf (cs : Text) : String := String.ofList (DeskConfig.Text.decode (bytesOf cs))

def Pipe.text (p : Pipe) : Text :=
  if p.arrived.isEmpty then p.unread else p.unread ++ p.arrived.reverse.flatten

namespace Act

def ask (path : String) : Act Found := fun s => .ask path fun found => .done (.ok found, s)

def entryAt (p : Path) : Act Entry := do
  let s ← get
  match lookUp p s.system.written with
  | some content => return .file content
  | none =>
    match Path.standard? p with
    | some e => return e
    | none =>
      let others := (s.system.written.filterMap fun (q, _) =>
        if !q.isEmpty && q.dropLast == p then q.getLast? else none) ++ Path.standardNames p
      match ← ask (stringOf (Path.key p)) with
      | .file bytes => return .file (textOf bytes)
      | .folder names =>
        return .folder (names.map ofString ++ others).eraseDups
      | .nothing =>
        if p == Path.start || Path.folders.contains p then return .folder others
        return .nothing

def isFolder (p : Path) : Act Bool := do
  match ← entryAt p with
  | .folder _ => return true
  | _ => return false

/-- Follows names from a folder; none if one of them is in no folder. -/
def follow : Path → List Text → Act (Option Path)
  | p, [] => return some p
  | p, name :: names => do
    if !(← isFolder p) then return none
    match name with
    | [] | ['.'] => follow p names
    | ['.', '.'] => follow p.dropLast names
    | name => follow (p ++ [name]) names

def pathOf (cs : Text) : Act (Option Path) := do
  match cs with
  | [] => return none
  | '/' :: _ => follow [] (Path.split cs)
  | _ => follow (← get).folder (Path.split cs)

def entryOf (cs : Text) : Act Entry := do
  match ← pathOf cs with
  | some p => entryAt p
  | none => return .nothing

def writeFile (p : Path) (content : Text) : Act Unit := modify fun s =>
  { s with system := { s.system with written := put p content s.system.written } }

def freshNumber : Act Nat := do
  let s ← get
  set { s with system := { s.system with number := s.system.number + 1 } }
  return s.system.number

def openStream (stream : Stream) : Act Nat := do
  let number ← freshNumber
  modify fun s =>
    { s with system := { s.system with streams := (number, stream) :: s.system.streams } }
  return number

def newPipe (content : Text) : Act Nat := do
  let number ← freshNumber
  modify fun s =>
    { s with system := { s.system with
      pipes := (number, { unread := content }) :: s.system.pipes } }
  return number

def connect (stream number : Nat) : Act Unit := modify fun s =>
  { s with streams := put stream number s.streams }

def disconnect (stream : Nat) : Act Unit := modify fun s =>
  { s with streams := remove stream s.streams }

def streamOf (stream : Nat) : Act (Option (Nat × Stream)) := do
  let s ← get
  return (lookUp stream s.streams).bind fun number =>
    (lookUp number s.system.streams).map fun st => (number, st)

def setStream (number : Nat) (stream : Stream) : Act Unit := modify fun s =>
  { s with system := { s.system with streams := put number stream s.system.streams } }

/-- How far a writer may be ahead of a reader that has not begun to read. One that goes
on beyond that writes for ever, and is stopped like a writer without a reader. -/
def pipeLimit : Nat := 262144

def writePipe (number : Nat) (cs : Text) : Act Unit := do
  let s ← get
  let pipe := (lookUp number s.system.pipes).getD {}
  let size := pipe.size + cs.length
  set { s with system := { s.system with
    pipes := put number { pipe with arrived := cs :: pipe.arrived, size } s.system.pipes } }
  if size > pipeLimit then throw (.killed 13)

/-- Takes everything out of a pipe. -/
def drain (number : Nat) : Act Text := do
  let s ← get
  let pipe := (lookUp number s.system.pipes).getD {}
  set { s with system := { s.system with pipes := remove number s.system.pipes } }
  return pipe.text

/-- Puts text into a file from a position on. -/
def overwritten (content : Text) (position : Nat) (cs : Text) : Text :=
  content.take position ++ List.replicate (position - content.length) '\x00' ++ cs ++
    content.drop (position + cs.length)

/-- Writes to a stream; false if that cannot be done. No text can always be written. -/
def write (stream : Nat) (cs : Text) : Act Bool := do
  if cs.isEmpty then return true
  match ← streamOf stream with
  | none => return false
  | some (number, st) =>
    if !st.writes then return false
    match st.target with
    | .output =>
      modify fun s => { s with system := { s.system with printed := cs :: s.system.printed } }
      return true
    | .emptiness => return true
    | .pipe pipe =>
      writePipe pipe cs
      return true
    | .file p =>
      match ← entryAt p with
      | .file content =>
        let position := if st.atEnd then content.length else st.position
        writeFile p (overwritten content position cs)
        setStream number { st with position := position + cs.length }
        return true
      | _ => return false

/-- Prints what a command has to say. Its status also tells whether that could be done. -/
def say (cs : Text) (status : Nat) : Act Nat := do
  if ← write 1 cs then return status
  return Nat.lor status 1

def cutLine (cs : Text) : Text × Text × Bool :=
  let line := cs.takeWhile (· != '\n')
  match cs.drop line.length with
  | _ :: rest => (line, rest, true)
  | [] => (line, [], false)

def readLine (stream : Nat) : Act (Text × Bool) := do
  match ← streamOf stream with
  | none => return ([], false)
  | some (number, st) =>
    if !st.reads then return ([], false)
    match st.target with
    | .file p =>
      match ← entryAt p with
      | .file content =>
        let (line, _, ended) := cutLine (content.drop st.position)
        let taken := line.length + if ended then 1 else 0
        setStream number { st with position := st.position + taken }
        return (line, ended)
      | _ => return ([], false)
    | .pipe number =>
      let s ← get
      let pipe := (lookUp number s.system.pipes).getD {}
      let (line, rest, ended) := cutLine pipe.text
      set { s with system := { s.system with
        pipes := put number { unread := rest } s.system.pipes } }
      return (line, ended)
    | _ => return ([], false)

/-- Opens a file; none if that cannot be done. -/
def openPath (opening : Opening) (cs : Text) : Act (Option Nat) := do
  let reads := opening = .read || opening = .both
  let writes := opening ≠ .read
  let stream (target : Target) : Act (Option Nat) := do
    return some (← openStream { target, reads, writes, atEnd := opening = .append })
  match ← pathOf cs with
  | none => return none
  | some p =>
    match ← entryAt p with
    | .emptiness => stream .emptiness
    | .stream number =>
      match ← streamOf number with
      | none => return none
      | some (_, st) =>
        match st.target with
        | .file p =>
          if opening = .write || opening = .overwrite then writeFile p []
          stream (.file p)
        | target => stream target
    | .folder _ => if writes then return none else stream .emptiness
    | .file _ =>
      if opening = .write && (← get).settings.contains "noclobber" then return none
      if opening = .write || opening = .overwrite then writeFile p []
      stream (.file p)
    | .nothing =>
      if !writes || !(← isFolder p.dropLast) then return none
      writeFile p []
      stream (.file p)

end Act

end DeskConfig.Shell
