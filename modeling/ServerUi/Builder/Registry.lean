import ServerUi.Builder.Content
import ServerUi.Builder.Interactive
import ServerUi.Builder.Layout

/-! The registry of builders by node type. A later registration of a type replaces an earlier
one. -/

namespace ServerUi

/-- Builders in the order of registration, each type once. -/
structure Registry where
  entries : List (String × Builder)

inductive RegistrationError where
  | invalidTag (given : Json)
  | notCallable (tag : String)

def RegistrationError.message : RegistrationError → String
  | invalidTag given => s!"Node type must be a non-empty string, got {given.literal}"
  | notCallable tag => s!"Builder for '{tag}' is not callable"

namespace Registry

def empty : Registry := ⟨[]⟩

def lookup (r : Registry) (tag : String) : Option Builder := r.entries.lookup tag

def contains (r : Registry) (tag : String) : Bool := r.entries.any (·.1 == tag)

def size (r : Registry) : Nat := r.entries.length

/-- Puts an entry in place of the one with the same tag, or at the end. -/
def put : List (String × Builder) → String → Builder → List (String × Builder)
  | [], tag, b => [(tag, b)]
  | (t, c) :: rest, tag, b => if t = tag then (t, b) :: rest else (t, c) :: put rest tag b

def insert (r : Registry) (tag : String) (b : Builder) : Registry := ⟨put r.entries tag b⟩

/-- Registers what may be a builder under what may be a tag. A replaced builder is reported. -/
def register (r : Registry) (tag : Json) (builder : Option Builder) :
    Except RegistrationError (Registry × List Notice) :=
  match tag, builder with
  | .str "", _ => .error (.invalidTag tag)
  | .str tag, some b =>
    .ok (r.insert tag b, if r.contains tag then [.builderReplaced tag] else [])
  | .str tag, none => .error (.notCallable tag)
  | tag, _ => .error (.invalidTag tag)

def erase (r : Registry) (tag : String) : Registry := ⟨r.entries.filter (·.1 != tag)⟩

def tags (r : Registry) : List String := (r.entries.map (·.1)).mergeSort (· ≤ ·)

def standard : Registry :=
  ⟨[("text", Builder.text), ("richText", Builder.richText), ("button", Builder.button),
    ("image", Builder.image), ("icon", Builder.icon), ("column", Builder.flex .vertical),
    ("row", Builder.flex .horizontal), ("container", Builder.container),
    ("center", Builder.center), ("sizedBox", Builder.sizedBox), ("card", Builder.card),
    ("textField", Builder.textField), ("checkbox", Builder.checkbox),
    ("dropdown", Builder.dropdown), ("listView", Builder.listView),
    ("divider", Builder.divider)]⟩

/-- Adds the standard builders for the tags that have none yet. -/
def withStandard (r : Registry) : Registry :=
  standard.entries.foldl (fun r (tag, b) => if r.contains tag then r else r.insert tag b) r

end Registry

end ServerUi
