import ServerUi.Builder.Program
import ServerUi.Style.Resolve

/-! Builders for text, images, icons, buttons and dividers. A node without its text, address or
name has nothing to show. -/

namespace ServerUi.Builder

open Style

def text : Builder := fun config => do
  match ← config.text "text" with
  | none => return none
  | some content =>
    let style ← textStyle (config.get "style")
    let align ← choice TextAlign (config.get "textAlign")
    return some (.leaf (.text content style align))

def spans : List Json → Report (List TextSpan)
  | [] => pure []
  | .obj span :: rest =>
    match Config.get span "text" with
    | .str content => do
      let style ← textStyle (Config.get span "style")
      return ⟨content, style⟩ :: (← spans rest)
    | _ => spans rest
  | _ :: rest => spans rest

def richText : Builder := fun config => do
  match ← config.array "spans" with
  | none | some [] => return none
  | some items =>
    let found ← spans items
    let align ← choice TextAlign (config.get "textAlign")
    return some (.leaf (.richText found (align.getD .start)))

/-- A button keeps its action as it stands in the document. -/
def button : Builder := fun config => do
  match ← config.text "text" with
  | none => return none
  | some content => return some (.leaf (.button content (some (config.get "action"))))

/-- Where an image comes from; an address goes before an asset. -/
def imageSource (config : Config) : Except Fault (Option ImageSource) := do
  let url ← config.text "url"
  let asset ← config.text "asset"
  return (url.map .url).or (asset.map .asset)

/-- An image, or a grey box in its place if it does not load. -/
def image : Builder := fun config => do
  match ← imageSource config with
  | none => return none
  | some source =>
    let width ← dimension (config.get "width")
    let height ← dimension (config.get "height")
    let placeholder := Placeholder.ofSize width height
    if ← Build.isLoadable source then
      let fit ← choice BoxFit (config.get "fit")
      return some (.leaf (.image source width height fit (some placeholder)))
    else return some placeholder.widget

/-- The icon with a name in upper or lower case. Two icons cannot be asked for by name. -/
def glyph? (name : String) : Option Glyph :=
  (named? Glyph name).filter fun g => g != .helpOutline && g != .error

/-- The icon for a name; one that is not known is replaced and reported. -/
def glyph (name : String) : Report Glyph :=
  match glyph? name with
  | some g => pure g
  | none => do
    Report.note (.iconUnmapped name)
    return .helpOutline

def icon : Builder := fun config => do
  match ← config.text "icon" with
  | none => return none
  | some name =>
    let glyph ← glyph name
    let size ← dimension (config.get "size")
    let color ← color (config.get "color")
    return some (.leaf (.icon glyph size color))

def divider : Builder := fun config => do
  let height ← dimension (config.get "height")
  let thickness ← dimension (config.get "thickness")
  let color ← color (config.get "color")
  return some (.leaf (.divider height thickness color))

end ServerUi.Builder
