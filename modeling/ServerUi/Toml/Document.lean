import ServerUi.Text.Utf8
import ServerUi.Toml.Reader

/-! Reading a whole settings file, one statement a line. -/

namespace ServerUi.Toml

/-- What has been read so far. Keys that dotted keys made are declared from the next header on. -/
structure Progress where
  entries : Entries
  marks : List Mark
  pending : List Key
  header : Key

namespace Progress

def start : Progress := ⟨[], [], [], []⟩

def settle (p : Progress) : Progress :=
  { p with marks := p.pending.map .declared ++ p.marks, pending := [] }

/-- The tables that a dotted key leads through below the header. -/
def onTheWay (header key : Key) : List Key :=
  (List.range (key.length - 1)).map fun i => header ++ key.take (i + 1)

def pair (p : Progress) (key : Key) (v : Toml) : Option Progress :=
  let way := onTheWay p.header key
  let parent := p.header ++ key.dropLast
  if way.any (isDeclared p.marks) || isFrozen p.marks parent then none
  else do
    let entries ← defined p.entries parent (key.getLast?.getD "") v
    let marks := if isWhole v then .frozen (p.header ++ key) :: p.marks else p.marks
    return { p with entries, marks, pending := way ++ p.pending }

def open? (p : Progress) (key : Key) : Option Progress :=
  if isDeclared p.marks key || isFrozen p.marks key then none
  else do
    let entries ← opened p.entries key
    return { p with entries, marks := .declared key :: p.marks, header := key }

def append? (p : Progress) (key : Key) : Option Progress :=
  if isFrozen p.marks key then none
  else do
    let entries ← appended p.entries key.dropLast (key.getLast?.getD "")
    return { p with entries, marks := .declared key :: forget p.marks key, header := key }

end Progress

def orInvalid : Option α → Except TomlFlaw α
  | some a => .ok a
  | none => invalid

section Room

variable (room : Option Nat)

def readPair (p : Progress) (cs : List Char) : Except TomlFlaw (Progress × List Char) := do
  let (key, rest) ← readKey (cs.length + 1) cs
  match rest with
  | '=' :: rest => do
    let (v, rest) ← readValue room (2 * rest.length + 2) (skipBlanks rest)
    let p ← orInvalid (p.pair key v)
    return (p, rest)
  | _ => invalid

/-- A header behind its first bracket. -/
def readHeader (p : Progress) (cs : List Char) : Except TomlFlaw (Progress × List Char) :=
  match cs with
  | '[' :: rest => do
    let (key, rest) ← readKey (rest.length + 1) (skipBlanks rest)
    let p ← orInvalid (p.settle.append? key)
    match rest with
    | ']' :: ']' :: rest => return (p, rest)
    | _ => invalid
  | _ => do
    let (key, rest) ← readKey (cs.length + 1) (skipBlanks cs)
    let p ← orInvalid (p.settle.open? key)
    match rest with
    | ']' :: rest => return (p, rest)
    | _ => invalid

/-- A pair, a header, or nothing in front of a comment or the end of the line. -/
def readStatement (p : Progress) (cs : List Char) : Except TomlFlaw (Progress × List Char) :=
  match cs with
  | [] | '\n' :: _ | '#' :: _ => .ok (p, cs)
  | '[' :: rest => readHeader p rest
  | _ => readPair room p cs

def readLines : Nat → Progress → List Char → Except TomlFlaw Entries
  | 0, _, _ => invalid
  | fuel + 1, p, cs => do
    let (p, rest) ← readStatement room p (skipBlanks cs)
    let rest ← skipComment (skipBlanks rest)
    match rest with
    | [] => return p.entries
    | '\n' :: rest => readLines fuel p rest
    | _ => invalid

end Room

/-- A line feed with a carriage return in front of it is a line feed. -/
def joinedLines : List Char → List Char
  | [] => []
  | '\r' :: '\n' :: rest => '\n' :: joinedLines rest
  | c :: rest => c :: joinedLines rest

/-- The entries of a text, with room for so many calls behind the one that reads a value of its
own. -/
def readDocument (room : Option Nat) (cs : List Char) : Except TomlFlaw Entries :=
  readLines room (cs.length + 1) .start (joinedLines cs)

end ServerUi.Toml
