import ServerUi.Builder.Program
import ServerUi.Style.Resolve

/-! Builders for widgets around other widgets. A row of children needs its array; a widget around
one child is built with or without it. -/

namespace ServerUi.Builder

open Style

def flex (axis : Axis) : Builder := fun config => do
  match ← config.array "children" with
  | none => return none
  | some _ =>
    let children ← Build.childrenAt "children"
    let main ← choice MainAlignment (config.get "mainAxisAlignment")
    let cross ← choice CrossAlignment (config.get "crossAxisAlignment")
    return some (.group (.flex axis (main.getD .start) (cross.getD .center)) children)

def listView : Builder := fun config => do
  match ← config.array "children" with
  | none => return none
  | some _ =>
    let shrinkWrap ← config.boolean "shrinkWrap"
    let children ← Build.childrenAt "children"
    return some (.group (.listView (shrinkWrap.getD false)) children)

/-- The child is rendered before the container's own properties are read. -/
def container : Builder := fun config => do
  let child ← Build.childAt "child"
  let width ← dimension (config.get "width")
  let height ← dimension (config.get "height")
  let padding ← edgeInsets (config.get "padding")
  let margin ← edgeInsets (config.get "margin")
  let color ← color (config.get "color")
  let radius ← borderRadius (config.get "borderRadius")
  return some (.wrapper (.container ⟨width, height, padding, margin, color, radius⟩) child)

def center : Builder := fun _ => do
  let child ← Build.childAt "child"
  return some (.wrapper .center child)

def sizedBox : Builder := fun config => do
  let child ← Build.childAt "child"
  let width ← dimension (config.get "width")
  let height ← dimension (config.get "height")
  return some (.wrapper (.sizedBox width height) child)

/-- A card stands around its padding, and the padding around the child. -/
def card : Builder := fun config => do
  let elevation ← config.number "elevation"
  let padding ← edgeInsets (config.get "padding")
  let margin ← edgeInsets (config.get "margin")
  let child ← Build.childAt "child"
  let inner := Widget.wrapper (.padding (padding.getD (.all (.ofNat 8)))) child
  return some (.wrapper (.card (elevation.getD (.ofNat 1)) margin) (some inner))

end ServerUi.Builder
