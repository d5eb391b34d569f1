import ServerUi.Field
import ServerUi.Widget.Basic

/-! Widgets made from their kind, without a document: fields that are not given have their defaults,
and there is neither a cell nor an action. A field that does not fit counts as not given. -/

namespace ServerUi

namespace Config

def double? (fields : Config) (key : String) : Option Double :=
  ((fields.number key).toOption).join

def text? (fields : Config) (key : String) : Option String :=
  ((fields.text key).toOption).join

def object? (fields : Config) (key : String) : Option Config :=
  ((fields.object key).toOption).join

def items (fields : Config) (key : String) : List Json :=
  (((fields.array key).toOption).join).getD []

def texts (fields : Config) (key : String) : List String :=
  (fields.items key).filterMap fun | .str s => some s | _ => none

/-- A choice by its exact name. -/
def choice? (α : Type) [Choice α] (fields : Config) (key : String) : Option α :=
  (fields.text? key).bind fun s => (Choice.all : List α).find? fun a => Choice.name a == s

def color? (fields : Config) (key : String) : Option Color :=
  (fields.object? key).bind fun members =>
    match members.get "argb" with
    | .int n => some ⟨n⟩
    | _ => none

/-- Insets by their sides; a side that is not given is zero. -/
def insets? (fields : Config) (key : String) : Option EdgeInsets :=
  (fields.object? key).map fun members =>
    let side (name : String) := (members.double? name).getD .zero
    ⟨side "left", side "top", side "right", side "bottom"⟩

def radius? (fields : Config) (key : String) : Option Double :=
  (fields.object? key).bind fun members => members.double? "radius"

def weight? (fields : Config) (key : String) : Option FontWeight :=
  match fields.get key with
  | .int n => FontWeight.ofInt? n
  | _ => none

def style? (fields : Config) (key : String) : Option TextStyle :=
  (fields.object? key).map fun members =>
    ⟨members.double? "font_size", members.color? "color", members.weight? "font_weight",
      members.choice? FontStyle "font_style"⟩

def span? : Json → Option TextSpan
  | .obj members => (text? members "text").map fun s => ⟨s, style? members "style"⟩
  | _ => none

def source? (fields : Config) (key : String) : Option ImageSource :=
  (fields.object? key).bind fun members => do
    return ⟨← members.text? "kind", ← members.text? "location"⟩

end Config

def ErrorFrame.plain (fields : Config) : ErrorFrame where
  padding := (fields.insets? "padding").getD standard.padding
  border := (fields.color? "border_color").getD standard.border
  radius := (fields.radius? "border_radius").getD standard.radius
  iconSize := (fields.double? "icon_size").getD standard.iconSize
  fontSize := (fields.double? "font_size").getD standard.fontSize

def Box.plain (fields : Config) : Box where
  width := fields.double? "width"
  height := fields.double? "height"
  padding := fields.insets? "padding"
  margin := fields.insets? "margin"
  color := fields.color? "color"
  radius := fields.radius? "border_radius"

def Leaf.plain? (kind : String) (fields : Config) : Option Leaf :=
  let align := fields.choice? TextAlign "text_align"
  let width := fields.double? "width"
  let height := fields.double? "height"
  let color := fields.color? "color"
  let label := fields.text? "label"
  match kind with
  | "text" => some (.text ((fields.text? "text").getD "") (fields.style? "style") align)
  | "richText" =>
    some (.richText ((fields.items "spans").filterMap Config.span?) (align.getD .start))
  | "button" => some (.button ((fields.text? "text").getD "") none)
  | "icon" =>
    some (.icon ((fields.choice? Glyph "glyph").getD .helpOutline) (fields.double? "size") color)
  | "image" =>
    let source := (fields.source? "source").getD (.asset "")
    some (.image source width height (fields.choice? BoxFit "fit") none)
  | "textField" => some (.textField label (fields.text? "hint") none)
  | "checkbox" => some (.checkbox label none)
  | "dropdown" => some (.dropdown (fields.texts "options") label none)
  | "divider" => some (.divider height (fields.double? "thickness") color)
  | "error" => some (.error ((fields.text? "message").getD "") (.plain fields))
  | _ => none

def Wrapper.plain? (kind : String) (fields : Config) : Option Wrapper :=
  match kind with
  | "container" => some (.container (.plain fields))
  | "center" => some .center
  | "sizedBox" => some (.sizedBox (fields.double? "width") (fields.double? "height"))
  | "padding" => some (.padding ((fields.insets? "padding").getD .zero))
  | "card" =>
    some (.card ((fields.double? "elevation").getD (.ofNat 1)) (fields.insets? "margin"))
  | _ => none

def Group.plain? (kind : String) (fields : Config) : Option Group :=
  let main := (fields.choice? MainAlignment "main_axis_alignment").getD .start
  let cross := (fields.choice? CrossAlignment "cross_axis_alignment").getD .center
  match kind with
  | "column" => some (.flex .vertical main cross)
  | "row" => some (.flex .horizontal main cross)
  | "listView" => some (.listView (fields.get "shrink_wrap").truth)
  | _ => none

namespace Widget

def plain? (kind : String) (fields : Config) (children : List Widget) : Option Widget :=
  ((Leaf.plain? kind fields).map leaf).or <|
    ((Wrapper.plain? kind fields).map (wrapper · none)).or <|
      (Group.plain? kind fields).map (group · children)

def isPressable : Widget → Bool
  | leaf (.button ..) => true
  | _ => false

def isChangeable : Widget → Bool
  | leaf (.textField ..) | leaf (.checkbox ..) | leaf (.dropdown ..) => true
  | _ => false

def isInteractive (w : Widget) : Bool := w.isPressable || w.isChangeable

end Widget

end ServerUi
