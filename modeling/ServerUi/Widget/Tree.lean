import ServerUi.Widget.Summary
import ServerUi.Json.Literal

/-! The tree of labels that a console shows, one line of text for each widget. -/

namespace ServerUi

mutual

/-- A property in a label. Numbers have six digits, objects and arrays are bracketed. -/
def labelValue : Json → String
  | .float x => x.shortText
  | .arr items => "[" ++ ", ".intercalate (labelValues items) ++ "]"
  | .obj members => "(" ++ ", ".intercalate (labelMembers members) ++ ")"
  | v => v.literal

def labelValues : List Json → List String
  | [] => []
  | v :: rest => labelValue v :: labelValues rest

def labelMembers : List (String × Json) → List String
  | [] => []
  | (k, v) :: rest => (k ++ "=" ++ labelValue v) :: labelMembers rest

end

/-- Bell, backspace, vertical tab, form feed and carriage return are left out of labels. -/
def isLabelControl (c : Char) : Bool :=
  [7, 8, 11, 12, 13].contains c.toNat

def withoutControls (s : String) : String :=
  String.ofList (s.toList.filter fun c => !isLabelControl c)

inductive Labels where
  | node (label : String) (below : List Labels)

namespace Widget

/-- The kind and the properties, or what went wrong. -/
def label (w : Widget) : String :=
  withoutControls <|
    match w.errorMessage? with
    | some message => "✗ " ++ message
    | none => " ".intercalate (w.kind :: labelMembers w.properties)

mutual

def labels : Widget → Labels
  | leaf l => .node (label (leaf l)) []
  | wrapper w none => .node (label (wrapper w none)) []
  | wrapper w (some child) => .node (label (wrapper w (some child))) [labels child]
  | group g children => .node (label (group g children)) (labelsOf children)

def labelsOf : List Widget → List Labels
  | [] => []
  | w :: rest => labels w :: labelsOf rest

end

end Widget

end ServerUi
