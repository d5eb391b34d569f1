import ServerUi.Widget.Basic

/-! A widget with one of its properties set to another value. A widget without the property is left
alone. -/

namespace ServerUi.Widget

def setStyle (a : Option TextStyle) : Widget → Widget
  | leaf (.text content _ align) => leaf (.text content a align)
  | w => w

def setSpanStyle (i : Nat) (a : Option TextStyle) : Widget → Widget
  | leaf (.richText spans align) =>
    leaf (.richText (spans.modify i fun span => { span with style := a }) align)
  | w => w

def setAlign (a : Option TextAlign) : Widget → Widget
  | leaf (.text content style _) => leaf (.text content style a)
  | leaf (.richText spans _) => leaf (.richText spans (a.getD .start))
  | w => w

/-- Of an image with its placeholder, or of the box that stands in its place. -/
def setImageWidth (a : Option Double) : Widget → Widget
  | leaf (.image source _ height fit placeholder) =>
    leaf (.image source a height fit
      (placeholder.map fun p => { p with width := a.getD (.ofNat 100) }))
  | wrapper (.container box) icon =>
    wrapper (.container { box with width := some (a.getD (.ofNat 100)) }) icon
  | w => w

def setImageHeight (a : Option Double) : Widget → Widget
  | leaf (.image source width _ fit placeholder) =>
    leaf (.image source width a fit
      (placeholder.map fun p => { p with height := a.getD (.ofNat 100) }))
  | wrapper (.container box) icon =>
    wrapper (.container { box with height := some (a.getD (.ofNat 100)) }) icon
  | w => w

def setFit (a : Option BoxFit) : Widget → Widget
  | leaf (.image source width height _ placeholder) =>
    leaf (.image source width height a placeholder)
  | w => w

def setSize (a : Option Double) : Widget → Widget
  | leaf (.icon glyph _ color) => leaf (.icon glyph a color)
  | w => w

def setColor (a : Option Color) : Widget → Widget
  | leaf (.icon glyph size _) => leaf (.icon glyph size a)
  | leaf (.divider height thickness _) => leaf (.divider height thickness a)
  | wrapper (.container box) child => wrapper (.container { box with color := a }) child
  | w => w

def setWidth (a : Option Double) : Widget → Widget
  | wrapper (.container box) child => wrapper (.container { box with width := a }) child
  | wrapper (.sizedBox _ height) child => wrapper (.sizedBox a height) child
  | w => w

def setHeight (a : Option Double) : Widget → Widget
  | leaf (.divider _ thickness color) => leaf (.divider a thickness color)
  | wrapper (.container box) child => wrapper (.container { box with height := a }) child
  | wrapper (.sizedBox width _) child => wrapper (.sizedBox width a) child
  | w => w

def setThickness (a : Option Double) : Widget → Widget
  | leaf (.divider height _ color) => leaf (.divider height a color)
  | w => w

def setMain (a : Option MainAlignment) : Widget → Widget
  | group (.flex axis _ cross) children => group (.flex axis (a.getD .start) cross) children
  | w => w

def setCross (a : Option CrossAlignment) : Widget → Widget
  | group (.flex axis main _) children => group (.flex axis main (a.getD .center)) children
  | w => w

/-- Of a container, or of what stands within a card around its child. -/
def setPadding (a : Option EdgeInsets) : Widget → Widget
  | wrapper (.container box) child => wrapper (.container { box with padding := a }) child
  | wrapper (.card elevation margin) (some (wrapper (.padding _) child)) =>
    wrapper (.card elevation margin)
      (some (wrapper (.padding (a.getD (.all (.ofNat 8)))) child))
  | w => w

def setMargin (a : Option EdgeInsets) : Widget → Widget
  | wrapper (.container box) child => wrapper (.container { box with margin := a }) child
  | wrapper (.card elevation _) child => wrapper (.card elevation a) child
  | w => w

def setRadius (a : Option Double) : Widget → Widget
  | wrapper (.container box) child => wrapper (.container { box with radius := a }) child
  | w => w

end ServerUi.Widget
