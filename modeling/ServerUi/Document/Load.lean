import ServerUi.File.Tree
import ServerUi.Json.Reader
import ServerUi.Notice
import ServerUi.Text.Utf8

/-! Loading a document: a file of UTF-8 text that holds one JSON object. -/

namespace ServerUi

inductive DocumentFlaw where
  | unreadable (why : Unreadable)
  | encoding (flaw : Utf8Flaw)
  | json (flaw : JsonFlaw) (line column : Nat)
  | root (found : Json)

def DocumentFlaw.message : DocumentFlaw → String
  | unreadable why => s!"cannot read document: {why.message}"
  | encoding flaw => s!"document is not valid UTF-8: {flaw.message}"
  | json flaw line column => s!"invalid JSON at line {line}, column {column}: {flaw.message}"
  | root found => s!"document root must be an object, got {found.typeName}"

/-- Why no document is loaded. Only the first kind names the file. -/
inductive DocumentError where
  | flawed (source : PathName) (flaw : DocumentFlaw)
  | nullCharacter
  | longInteger (digits : Nat)

def DocumentError.message : DocumentError → String
  | flawed source flaw => s!"{source.text}: {flaw.message}"
  | nullCharacter => Fault.nullCharacter.message
  | longInteger digits => (JsonFlaw.longInteger digits).message

/-- Line ends are read as line feeds, also those of a carriage return with or without one. -/
def unixLines : List Char → List Char
  | [] => []
  | '\r' :: '\n' :: rest => '\n' :: unixLines rest
  | '\r' :: rest => '\n' :: unixLines rest
  | c :: rest => c :: unixLines rest

/-- The value of a text; a flaw is located by line and column. -/
def Document.parse (source : PathName) (cs : List Char) : Except DocumentError Json :=
  match Json.readText cs with
  | .ok v => .ok v
  | .error (.longInteger digits, _) => .error (.longInteger digits)
  | .error (flaw, left) =>
    let (line, column) := Json.place cs left
    .error (.flawed source (.json flaw line column))

def Document.ofFile (fs : FileSystem) (source : PathName) : Except DocumentError Config :=
  if source.hasNull then .error .nullCharacter
  else
    match fs.read source with
    | .error why => .error (.flawed source (.unreadable why))
    | .ok bytes =>
      match Utf8.decode bytes with
      | .error flaw => .error (.flawed source (.encoding flaw))
      | .ok cs => do
        match ← Document.parse source (unixLines cs) with
        | .obj members => return members
        | found => .error (.flawed source (.root found))

def loadedNotice (source : PathName) : Notice := .documentLoaded source.text

end ServerUi
