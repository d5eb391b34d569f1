import ServerUi.Field
import ServerUi.Report
import ServerUi.Style.Basic
import ServerUi.Text.Letters

/-! From values of a document to style values. A value that is not understood resolves to nothing
and is reported. A number that is too large for a double is a fault. -/

namespace ServerUi.Style

/-- The choice whose name a text is, in upper or lower case. -/
def named? (α : Type) [Choice α] (s : String) : Option α :=
  (Choice.all : List α).find? fun a => lowered (Choice.name a) == lowered s

def choice (α : Type) [Choice α] : Json → Report (Option α)
  | .null => pure none
  | .str s =>
    match named? α s with
    | some a => pure (some a)
    | none => .without (.choiceUnknown (Choice.title α) s)
  | v => .without (.choiceType (Choice.title α) v)

/-- The colour of `#` and six hexadecimal digits, behind which one line break may stand. -/
def hexColor? (cs : List Char) : Option Color :=
  match cs with
  | '#' :: a :: b :: c :: d :: e :: f :: rest =>
    if rest = [] ∨ rest = ['\n'] then (hexNumber? [a, b, c, d, e, f]).map Color.opaqueRgb
    else none
  | _ => none

/-- A colour by its digits or by its name in upper or lower case. -/
def color : Json → Report (Option Color)
  | .null => pure none
  | .str s =>
    if s.toList.head? = some '#' then
      match hexColor? s.toList with
      | some c => pure (some c)
      | none => .without (.colorDigits s)
    else
      match Color.palette.lookup (lowered s) with
      | some c => pure (some c)
      | none => .without (.colorName s)
  | v => .without (.colorType v)

/-- A number from zero on; `invalid` reports any other value. -/
def nonnegative (invalid : Json → Notice) : Json → Report (Option Double)
  | .null => pure none
  | .int n => if 0 ≤ n then some <$> wholeToDouble n else .without (invalid (.int n))
  | .float x => if x.isNonnegative then pure (some x) else .without (invalid (.float x))
  | v => .without (invalid v)

def dimension : Json → Report (Option Double) := nonnegative .dimensionInvalid

def borderRadius : Json → Report (Option Double) := nonnegative .radiusInvalid

/-- One side of insets; zero if it is missing or no number. -/
def side (insets : Config) (name : String) : Report Double :=
  match insets.get name with
  | .null => pure .zero
  | .int n => wholeToDouble n
  | .float x => pure x
  | v => do
    Report.note (.insetType name v)
    return .zero

/-- A number for all sides, or an object with a number a side. -/
def edgeInsets : Json → Report (Option EdgeInsets)
  | .null => pure none
  | .int n => (some ∘ .all) <$> wholeToDouble n
  | .float x => pure (some (.all x))
  | .obj insets => do
    let left ← side insets "left"
    let top ← side insets "top"
    let right ← side insets "right"
    let bottom ← side insets "bottom"
    return some ⟨left, top, right, bottom⟩
  | v => .without (.insetsInvalid v)

/-- `bold`, `normal`, or one of the nine weights as a number. -/
def fontWeight : Json → Report (Option FontWeight)
  | .str s =>
    match [("bold", FontWeight.bold), ("normal", FontWeight.normal)].lookup (lowered s) with
    | some w => pure (some w)
    | none => .without (.weightName s)
  | .int n =>
    match FontWeight.ofInt? n with
    | some w => pure (some w)
    | none => .without (.weightNumber (.int n))
  | .float x =>
    match x.toInt?.bind FontWeight.ofInt? with
    | some w => pure (some w)
    | none => .without (.weightNumber (.float x))
  | _ => pure none

/-- The attributes of text, resolved one by one. -/
def attributes (style : Config) : Report TextStyle := do
  let size ← dimension (style.get "fontSize")
  let color ← color (style.get "color")
  let weight ← fontWeight (style.get "fontWeight")
  let slant ← choice FontStyle (style.get "fontStyle")
  return ⟨size, color, weight, slant⟩

def textStyle : Json → Report (Option TextStyle)
  | .null => pure none
  | .obj style => some <$> attributes style
  | v => .without (.styleType v)

end ServerUi.Style
