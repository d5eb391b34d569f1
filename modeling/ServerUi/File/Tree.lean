import ServerUi.File.Path

/-! Trees of files without links, and what looking a name up in one can say. -/

namespace ServerUi

inductive FileTree where
  | file (bytes : List UInt8)
  | directory (entries : List (String × FileTree))

namespace FileTree

def isFile : FileTree → Bool
  | file _ => true
  | directory _ => false

def get? : FileTree → List String → Option FileTree
  | t, [] => some t
  | directory entries, name :: rest => (entries.lookup name).bind fun t => t.get? rest
  | file _, _ :: _ => none

/-- The entries of a directory; a file has none. -/
def entries : FileTree → List (String × FileTree)
  | directory entries => entries
  | file _ => []

/-- Puts a tree at a place and the directories on the way to it. -/
def put : FileTree → List String → FileTree → FileTree
  | _, [], t => t
  | below, name :: rest, t =>
    let old := (below.entries.lookup name).getD (directory [])
    directory ((name, old.put rest t) :: below.entries.filter (·.1 != name))

end FileTree

/-- How many bytes a part of a name and a whole name may have, which characters no name can hold,
which files are closed to a reader and which directories to one who looks for names in them, and for
how many calls within calls there is room. -/
structure Limits where
  part : Option Nat
  whole : Option Nat
  unencodable : Char → Bool
  closed : List String → Bool
  room : Option Nat

namespace Limits

def unlimited : Limits := ⟨none, none, fun _ => false, fun _ => false, none⟩

/-- Only the lengths of names are limited. -/
def usual : Limits := { unlimited with part := some 255, whole := some 4095 }

def exceeds (s : String) (limit : Option Nat) : Bool := limit.any (· < s.utf8ByteSize)

end Limits

/-- All files, the place of the working directory among them, and the limits of the system. -/
structure FileSystem where
  root : FileTree
  cwd : List String
  limits : Limits

namespace FileSystem

/-- Follows the parts of a name from a place. Each step has to start from a directory that is not
closed, and only there the length of a part counts. -/
def follow (fs : FileSystem) : List String → List String → Except Unreadable (List String)
  | place, [] => .ok place
  | place, part :: rest =>
    match fs.root.get? place with
    | some (.directory _) =>
      if fs.limits.closed place then .error .denied
      else if Limits.exceeds part fs.limits.part then .error .nameTooLong
      else fs.follow (stepInto place part) rest
    | some (.file _) => .error .notDirectory
    | none => .error .missing

/-- The place that a name leads to, and what is there. -/
def find (fs : FileSystem) (p : PathName) : Except Unreadable (List String × FileTree) :=
  if Limits.exceeds p.text fs.limits.whole then .error .nameTooLong
  else
    match fs.follow (if p.isAbsolute then [] else fs.cwd) p.parts with
    | .error e => .error e
    | .ok place =>
      match fs.root.get? place with
      | some t => .ok (place, t)
      | none => .error .missing

/-- Whether a name leads to a file. There is no answer for a name that is too long, nor for one
that leads through a closed directory. -/
def isFile (fs : FileSystem) (p : PathName) : Except Unreadable Bool :=
  if p.hasNull then .ok false
  else
    match fs.find p with
    | .ok (_, t) => .ok t.isFile
    | .error why => if why.leavesOpen then .error why else .ok false

/-- Opens a file, and reads it to its end. -/
def read (fs : FileSystem) (p : PathName) : Except Unreadable (List UInt8) :=
  match fs.find p with
  | .ok (place, .file bytes) => if fs.limits.closed place then .error .denied else .ok bytes
  | .ok (_, .directory _) => .error .isDirectory
  | .error e => .error e

end FileSystem

end ServerUi
