import ServerUi.Json.Basic
import ServerUi.Style.Basic

/-! Widgets: what a presentation layer shows. A widget has no children, at most one, or a row of
them. -/

namespace ServerUi

/-- The value of an interactive widget under the identity of its node. -/
structure Cell where
  key : String
  value : Json

inductive Glyph where
  | star
  | favorite
  | home
  | person
  | settings
  | search
  | add
  | remove
  | edit
  | delete
  | check
  | close
  | menu
  | arrowBack
  | arrowForward
  | helpOutline
  | error
  deriving DecidableEq

instance : Choice Glyph where
  title := "IconGlyph"
  all := [.star, .favorite, .home, .person, .settings, .search, .add, .remove, .edit, .delete,
    .check, .close, .menu, .arrowBack, .arrowForward, .helpOutline, .error]
  name
    | .star => "star"
    | .favorite => "favorite"
    | .home => "home"
    | .person => "person"
    | .settings => "settings"
    | .search => "search"
    | .add => "add"
    | .remove => "remove"
    | .edit => "edit"
    | .delete => "delete"
    | .check => "check"
    | .close => "close"
    | .menu => "menu"
    | .arrowBack => "arrow_back"
    | .arrowForward => "arrow_forward"
    | .helpOutline => "help_outline"
    | .error => "error"

/-- Where an image comes from: an address, or a file among the assets. -/
structure ImageSource where
  kind : String
  location : String
  deriving DecidableEq

namespace ImageSource

def url (location : String) : ImageSource := ⟨"url", location⟩

def asset (location : String) : ImageSource := ⟨"asset", location⟩

end ImageSource

/-- A run of text with attributes of its own. -/
structure TextSpan where
  text : String
  style : Option TextStyle
  deriving DecidableEq

/-- The box that is shown in place of an image. -/
structure Placeholder where
  width : Double
  height : Double
  deriving DecidableEq

/-- As large as the image was to be, or one hundred where that is left open. -/
def Placeholder.ofSize (width height : Option Double) : Placeholder :=
  ⟨width.getD (.ofNat 100), height.getD (.ofNat 100)⟩

/-- How an error is shown: a box with a border around an icon and the message. -/
structure ErrorFrame where
  padding : EdgeInsets
  border : Color
  radius : Double
  iconSize : Double
  fontSize : Double
  deriving DecidableEq

def ErrorFrame.standard : ErrorFrame :=
  ⟨.all (.ofNat 8), .ofErrors, .ofNat 4, .ofNat 16, .ofNat 12⟩

/-- Widgets without children. A button keeps the action it was given, a text field the identity
of its node. -/
inductive Leaf where
  | text (text : String) (style : Option TextStyle) (align : Option TextAlign)
  | richText (spans : List TextSpan) (align : TextAlign)
  | button (text : String) (action : Option Json)
  | icon (glyph : Glyph) (size : Option Double) (color : Option Color)
  | image (source : ImageSource) (width height : Option Double) (fit : Option BoxFit)
      (placeholder : Option Placeholder)
  | textField (label hint : Option String) (key : Option String)
  | checkbox (label : Option String) (cell : Option Cell)
  | dropdown (options : List String) (label : Option String) (cell : Option Cell)
  | divider (height thickness : Option Double) (color : Option Color)
  | error (message : String) (frame : ErrorFrame)

structure Box where
  width : Option Double
  height : Option Double
  padding : Option EdgeInsets
  margin : Option EdgeInsets
  color : Option Color
  radius : Option Double
  deriving DecidableEq

/-- Widgets around at most one child. -/
inductive Wrapper where
  | container (box : Box)
  | center
  | sizedBox (width height : Option Double)
  | padding (insets : EdgeInsets)
  | card (elevation : Double) (margin : Option EdgeInsets)
  deriving DecidableEq

inductive Axis where
  | vertical
  | horizontal
  deriving DecidableEq

/-- Widgets around any number of children. -/
inductive Group where
  | flex (axis : Axis) (main : MainAlignment) (cross : CrossAlignment)
  | listView (shrinkWrap : Bool)
  deriving DecidableEq

inductive Widget where
  | leaf (leaf : Leaf)
  | wrapper (wrapper : Wrapper) (child : Option Widget)
  | group (group : Group) (children : List Widget)

def Leaf.kind : Leaf → String
  | text .. => "text"
  | richText .. => "richText"
  | button .. => "button"
  | icon .. => "icon"
  | image .. => "image"
  | textField .. => "textField"
  | checkbox .. => "checkbox"
  | dropdown .. => "dropdown"
  | divider .. => "divider"
  | error .. => "error"

def Wrapper.kind : Wrapper → String
  | container .. => "container"
  | center => "center"
  | sizedBox .. => "sizedBox"
  | padding .. => "padding"
  | card .. => "card"

def Group.kind : Group → String
  | flex .vertical .. => "column"
  | flex .horizontal .. => "row"
  | listView .. => "listView"

namespace Widget

def kind : Widget → String
  | leaf l => l.kind
  | wrapper w _ => w.kind
  | group g _ => g.kind

def children : Widget → List Widget
  | leaf _ => []
  | wrapper _ child => child.toList
  | group _ children => children

/-- The widget that marks a node that could not be built. -/
def error (message : String) : Widget := leaf (.error message .standard)

def errorMessage? : Widget → Option String
  | leaf (.error message _) => some message
  | _ => none

end Widget

/-- A grey box around an error icon. -/
def Placeholder.widget (p : Placeholder) : Widget :=
  .wrapper (.container ⟨p.width, p.height, none, none, Color.ofPlaceholders, none⟩)
    (some (.leaf (.icon .error none Color.ofErrors)))

end ServerUi
