import ServerUi.Widget.Walk

/-! The summary of a tree: kinds, properties that differ from their default, and children. -/

namespace ServerUi

/-- A member that is left out when there is no value. -/
def member? (name : String) : Option Json → Config
  | none => []
  | some v => [(name, v)]

/-- A member that is left out when a number is zero. -/
def nonzero? (name : String) (x : Double) : Config :=
  if x.isZero then [] else [(name, .float x)]

namespace EdgeInsets

def summary (e : EdgeInsets) : Config :=
  nonzero? "left" e.left ++ nonzero? "top" e.top ++ nonzero? "right" e.right ++
    nonzero? "bottom" e.bottom

def members (e : EdgeInsets) : Config :=
  [("left", .float e.left), ("top", .float e.top), ("right", .float e.right),
    ("bottom", .float e.bottom)]

end EdgeInsets

def choiceJson [Choice α] (a : α) : Json := .str (Choice.name a)

/-- A colour inside text attributes. -/
def Color.json (c : Color) : Json := .obj [("argb", .int c.argb)]

/-- The colour of a widget, null if it is left open. -/
def colorJson (c : Option Color) : Json := (c.map fun c => Json.str c.text).getD .null

def radiusJson (radius : Double) : Json := .obj [("radius", .float radius)]

def FontWeight.json (w : FontWeight) : Json := .int w.value

def labelJson (label : Option String) : Json := (label.map Json.str).getD .null

def TextStyle.summary (s : TextStyle) : Config :=
  member? "font_size" (s.size.map .float) ++ member? "color" (s.color.map Color.json) ++
    member? "font_weight" (s.weight.map FontWeight.json) ++
    member? "font_style" (s.slant.map choiceJson)

def TextSpan.summary (s : TextSpan) : Json :=
  .obj (("text", .str s.text) :: member? "style" (s.style.map fun t => .obj t.summary))

def ImageSource.json (s : ImageSource) : Json :=
  .obj [("kind", .str s.kind), ("location", .str s.location)]

def unlessDefault [DecidableEq α] (default a : α) : Option α :=
  if a = default then none else some a

def unlessNumber (default x : Double) : Option Json :=
  if x.sameNumber default then none else some (.float x)

/-- What differs from the standard frame, and the colour of the border. -/
def ErrorFrame.summary (frame : ErrorFrame) : Config :=
  let padding := if frame.padding.sameNumbers standard.padding then none else some frame.padding
  let radius := if frame.radius.sameNumber standard.radius then none else some frame.radius
  member? "padding" (padding.map fun e => .obj e.summary) ++
    [("border_color", .str frame.border.text)] ++
    member? "border_radius" (radius.map radiusJson) ++
    member? "icon_size" (unlessNumber standard.iconSize frame.iconSize) ++
    member? "font_size" (unlessNumber standard.fontSize frame.fontSize)

def checkedValue (cell : Option Cell) : Bool := (cell.map (·.value.truth)).getD false

/-- What a dropdown shows: what its cell holds, or its first option without one. -/
def selectedValue (options : List String) (cell : Option Cell) : Json :=
  match cell with
  | some cell => cell.value
  | none => labelJson options.head?

def plainText (spans : List TextSpan) : String := String.join (spans.map (·.text))

/-- The properties that differ from their default, in the order of the fields. The colour of an
icon and a divider, and what is computed from other fields, is always there. -/
def Leaf.properties : Leaf → Config
  | .text content style align =>
    member? "text" ((unlessDefault "" content).map .str) ++
      member? "style" (style.map fun s => .obj s.summary) ++
      member? "text_align" (align.map choiceJson)
  | .richText spans align =>
    member? "spans" (if spans.isEmpty then none else some (.arr (spans.map TextSpan.summary))) ++
      member? "text_align" ((unlessDefault .start align).map choiceJson) ++
      [("plain_text", .str (plainText spans))]
  | .button content _ => member? "text" ((unlessDefault "" content).map .str)
  | .icon glyph size color =>
    member? "glyph" ((unlessDefault .helpOutline glyph).map choiceJson) ++
      member? "size" (size.map .float) ++ [("color", colorJson color)]
  | .image source width height fit _ =>
    member? "source" ((unlessDefault (.asset "") source).map ImageSource.json) ++
      member? "width" (width.map .float) ++ member? "height" (height.map .float) ++
      member? "fit" (fit.map choiceJson)
  | .textField label hint _ =>
    member? "label" (label.map .str) ++ member? "hint" (hint.map .str)
  | .checkbox label cell =>
    member? "label" (label.map .str) ++ [("value", .bool (checkedValue cell))]
  | .dropdown options label cell =>
    member? "options" (if options.isEmpty then none else some (.arr (options.map .str))) ++
      member? "label" (label.map .str) ++ [("selected", selectedValue options cell)]
  | .divider height thickness color =>
    member? "height" (height.map .float) ++ member? "thickness" (thickness.map .float) ++
      [("color", colorJson color)]
  | .error message frame =>
    member? "message" ((unlessDefault "" message).map .str) ++ frame.summary

/-- Likewise; the colour of a container is always there. -/
def Wrapper.properties : Wrapper → Config
  | .container box =>
    member? "width" (box.width.map .float) ++ member? "height" (box.height.map .float) ++
      member? "padding" (box.padding.map fun e => .obj e.summary) ++
      member? "margin" (box.margin.map fun e => .obj e.summary) ++
      [("color", colorJson box.color)] ++ member? "border_radius" (box.radius.map radiusJson)
  | .center => []
  | .sizedBox width height =>
    member? "width" (width.map .float) ++ member? "height" (height.map .float)
  | .padding insets =>
    member? "padding" (if insets.summary.isEmpty then none else some (.obj insets.summary))
  | .card elevation margin =>
    member? "elevation" (unlessNumber (.ofNat 1) elevation) ++
      member? "margin" (margin.map fun e => .obj e.summary)

def Group.properties : Group → Config
  | .flex _ main cross =>
    member? "main_axis_alignment" ((unlessDefault .start main).map choiceJson) ++
      member? "cross_axis_alignment" ((unlessDefault .center cross).map choiceJson)
  | .listView shrinkWrap => member? "shrink_wrap" ((unlessDefault false shrinkWrap).map .bool)

namespace Widget

def properties : Widget → Config
  | leaf l => l.properties
  | wrapper w _ => w.properties
  | group g _ => g.properties

mutual

/-- Kind, properties, and the summaries of the children if there are any. -/
def summary : Widget → Json
  | leaf l => .obj (("kind", .str l.kind) :: l.properties)
  | wrapper w none => .obj (("kind", .str w.kind) :: w.properties)
  | wrapper w (some child) =>
    .obj (("kind", .str w.kind) :: w.properties ++ [("children", .arr [summary child])])
  | group g children =>
    .obj (("kind", .str g.kind) :: g.properties ++
      member? "children" (if children.isEmpty then none else some (.arr (summaries children))))

def summaries : List Widget → List Json
  | [] => []
  | w :: rest => summary w :: summaries rest

end

end Widget

end ServerUi
