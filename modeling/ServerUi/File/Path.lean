import ServerUi.Fault
import ServerUi.Text.Pieces

/-! Names of files. A name keeps its `..` parts; empty parts and `.` are dropped when it is read. -/

namespace ServerUi

/-- Where a name starts: at the working directory, at the root, or at a root of two slashes. -/
inductive PathRoot where
  | relative
  | single
  | double
  deriving DecidableEq

structure PathName where
  root : PathRoot
  parts : List String
  deriving DecidableEq

/-- One part further; `..` leads to the directory above, and from the root to itself. -/
def stepInto (place : List String) (part : String) : List String :=
  if part = ".." then place.dropLast else place ++ [part]

namespace PathName

def ofChars (cs : List Char) : PathName where
  root :=
    match (cs.takeWhile (· == '/')).length with
    | 0 => .relative
    | 2 => .double
    | _ => .single
  parts :=
    ((pieces '/' cs).filter fun piece => piece != [] && piece != ['.']).map String.ofList

def ofString (s : String) : PathName := ofChars s.toList

def isAbsolute (p : PathName) : Bool := p.root != .relative

def text (p : PathName) : String :=
  match p.root with
  | .relative => if p.parts.isEmpty then "." else "/".intercalate p.parts
  | .single => "/" ++ "/".intercalate p.parts
  | .double => "//" ++ "/".intercalate p.parts

/-- A name seen from a directory; an absolute name stays as it is. -/
def join (directory p : PathName) : PathName :=
  if p.isAbsolute then p else ⟨directory.root, directory.parts ++ p.parts⟩

def parent (p : PathName) : PathName := ⟨p.root, p.parts.dropLast⟩

def hasNull (p : PathName) : Bool := p.parts.any fun part => part.toList.contains '\x00'

/-- The place from the root that a name leads to, without looking at any file. -/
def place (cwd : List String) (p : PathName) : List String :=
  p.parts.foldl stepInto (if p.isAbsolute then [] else cwd)

/-- One part further; one that cannot be encoded, or has a null character, is a fault. -/
def enter (unencodable : Char → Bool) (place : List String) (part : String) :
    Except Fault (List String) :=
  let cs := part.toList.dropWhile (!unencodable ·)
  if cs.isEmpty then
    if part.toList.contains '\x00' then .error .nullCharacter else .ok (stepInto place part)
  else
    let above := (String.join (place.map ("/" ++ ·))).length + 1
    .error (.unencodable (cs.takeWhile unencodable) (above + (part.length - cs.length)))

/-- Likewise, but every part is asked for on the way. -/
def resolve (unencodable : Char → Bool) (cwd : List String) (p : PathName) :
    Except Fault (List String) :=
  p.parts.foldlM (enter unencodable) (if p.isAbsolute then [] else cwd)

end PathName

end ServerUi
