import ServerUi.Widget.Summary

/-! Every field of a tree, with the fields that have their default value. -/

namespace ServerUi

/-- What stands for a value that a document leaves open. -/
def unset : Json := .str "unset"

def orUnset (v : Option Json) : Json := v.getD unset

def TextStyle.members (s : TextStyle) : Config :=
  [("font_size", orUnset (s.size.map .float)), ("color", orUnset (s.color.map Color.json)),
    ("font_weight", orUnset (s.weight.map FontWeight.json)),
    ("font_style", orUnset (s.slant.map choiceJson))]

def styleDump (s : Option TextStyle) : Json := orUnset (s.map fun s => .obj s.members)

def insetsDump (e : Option EdgeInsets) : Json := orUnset (e.map fun e => .obj e.members)

def TextSpan.dump (s : TextSpan) : Json :=
  .obj [("text", .str s.text), ("style", styleDump s.style)]

def Box.fields (box : Box) : Config :=
  [("width", orUnset (box.width.map .float)), ("height", orUnset (box.height.map .float)),
    ("padding", insetsDump box.padding), ("margin", insetsDump box.margin),
    ("color", colorJson box.color), ("border_radius", orUnset (box.radius.map radiusJson))]

def Wrapper.fields : Wrapper → Config
  | .container box => box.fields
  | .center => []
  | .sizedBox width height =>
    [("width", orUnset (width.map .float)), ("height", orUnset (height.map .float))]
  | .padding insets => [("padding", .obj insets.members)]
  | .card elevation margin => [("elevation", .float elevation), ("margin", insetsDump margin)]

def iconFields (glyph : Glyph) (size : Option Double) (color : Option Color) : Config :=
  [("glyph", choiceJson glyph), ("size", orUnset (size.map .float)), ("color", colorJson color)]

def Placeholder.dump (p : Placeholder) : Json :=
  .obj (("kind", .str "container") ::
    ("child", .obj (("kind", .str "icon") :: iconFields .error none Color.ofErrors)) ::
    Box.fields ⟨p.width, p.height, none, none, Color.ofPlaceholders, none⟩)

def Leaf.fields : Leaf → Config
  | .text content style align =>
    [("text", .str content), ("style", styleDump style),
      ("text_align", orUnset (align.map choiceJson))]
  | .richText spans align =>
    [("spans", .arr (spans.map TextSpan.dump)), ("text_align", choiceJson align),
      ("plain_text", .str (plainText spans))]
  | .button content _ => [("text", .str content)]
  | .icon glyph size color => iconFields glyph size color
  | .image source width height fit placeholder =>
    [("source", source.json), ("width", orUnset (width.map .float)),
      ("height", orUnset (height.map .float)), ("fit", orUnset (fit.map choiceJson)),
      ("error_placeholder", (placeholder.map Placeholder.dump).getD .null)]
  | .textField label hint _ => [("label", labelJson label), ("hint", labelJson hint)]
  | .checkbox label cell => [("label", labelJson label), ("value", .bool (checkedValue cell))]
  | .dropdown options label cell =>
    [("options", .arr (options.map .str)), ("label", labelJson label),
      ("selected", selectedValue options cell)]
  | .divider height thickness color =>
    [("height", orUnset (height.map .float)), ("thickness", orUnset (thickness.map .float)),
      ("color", colorJson color)]
  | .error message frame =>
    [("message", .str message), ("padding", .obj frame.padding.members),
      ("border_color", .str frame.border.text), ("border_radius", radiusJson frame.radius),
      ("icon_size", .float frame.iconSize), ("font_size", .float frame.fontSize)]

def Group.fields : Group → Config
  | .flex _ main cross =>
    [("main_axis_alignment", choiceJson main), ("cross_axis_alignment", choiceJson cross)]
  | .listView shrinkWrap => [("shrink_wrap", .bool shrinkWrap)]

namespace Widget

mutual

def dump : Widget → Json
  | leaf l => .obj (("kind", .str l.kind) :: l.fields)
  | wrapper w none => .obj (("kind", .str w.kind) :: ("child", .null) :: w.fields)
  | wrapper w (some child) => .obj (("kind", .str w.kind) :: ("child", dump child) :: w.fields)
  | group g children =>
    .obj (("kind", .str g.kind) :: ("children", .arr (dumps children)) :: g.fields)

def dumps : List Widget → List Json
  | [] => []
  | w :: rest => dump w :: dumps rest

end

end Widget

end ServerUi
