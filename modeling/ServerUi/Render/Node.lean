import ServerUi.Builder.Registry
import ServerUi.Render.Part
import ServerUi.Widget.Walk

/-! Rendering a document, with a log that is told later. A fault is contained at the node that caused
it: the node is shown as an error, and everything around it as if it had been built. -/

namespace ServerUi

/-- What rendering depends on besides the document and the store. -/
structure Host where
  registry : Registry
  images : Option (ImageSource → Report Bool)

/-- One step down to a node of a type, whose identity is `key`. Whatever its builder fails with
ends here, as an error in place of the node. -/
def contained (tag : String) (key : Path → String) (build : Pass (Except Fault (Option Widget))) :
    Pass (Option Widget) :=
  Pass.under tag do
    let path ← Pass.here
    Pass.emit [.built path (key path)]
    match ← build with
    | .ok w => do
      Pass.emit [.finished (← Pass.here) w]
      return w
    | .error fault => do
      let w ← reportError (.failed fault) key
      Pass.emit [.note .builderTraceback]
      return w

/-- Builds a node that is an object, given its parts. -/
def buildNode (host : Host) (config : Config) (parts : List (String × Part)) :
    Pass (Option Widget) :=
  match config.name? "type" with
  | none => reportError .missingType (identity config)
  | some tag =>
    match host.registry.lookup tag with
    | none => reportError (.unknownType tag) (identity config)
    | some builder =>
      contained tag (identity config)
        ((builder config).run host.images (.mk (.obj config) (pure none) [] parts))

mutual

/-- The value with what rendering each of its parts does. -/
def parted (host : Host) : Json → Part
  | .obj members =>
    let parts := partedMembers host members
    .mk (.obj members) (buildNode host members parts) [] parts
  | .arr items =>
    .mk (.arr items) (reportError (.malformed (.arr items)) (identity [])) (partedItems host items) []
  | v => .mk v (reportError (.malformed v) (identity [])) [] []

def partedItems (host : Host) : List Json → List Part
  | [] => []
  | v :: rest => parted host v :: partedItems host rest

def partedMembers (host : Host) : List (String × Json) → List (String × Part)
  | [] => []
  | (k, v) :: rest => (k, parted host v) :: partedMembers host rest

end

def Host.render (host : Host) (v : Json) : Pass (Option Widget) := (parted host v).render

/-- Renders the objects among the items of an array; any other value has none. -/
def Host.renderEach (host : Host) (v : Json) : Pass (List Widget) :=
  renderItems 0 (parted host v).items

def Host.renderUnder (host : Host) (config : Json) (field : String) : Pass (Option Widget) :=
  renderMember (parted host config) field

/-- What rendering a document from the root yields. -/
structure Rendering where
  widget : Option Widget
  errors : List String

namespace Rendering

/-- There is nothing to show, and the host shows a view of its own. -/
def fallback (r : Rendering) : Bool := r.widget.isNone

/-- There is something to show, without errors. -/
def ok (r : Rendering) : Bool := r.widget.isSome && r.errors.isEmpty

end Rendering

/-- Renders a document and collects the messages of its error nodes. -/
def Host.presentation (host : Host) (document : Json) : Pass Rendering := do
  match ← host.render document with
  | none => do
    Pass.emit [.note .documentEmpty]
    return ⟨none, []⟩
  | some w => do
    let errors := w.errors
    Pass.emit (if errors.isEmpty then [] else [.note (.documentErrors errors.length)])
    return ⟨some w, errors⟩

/-- Likewise, from the root. -/
def Host.present (host : Host) (document : Json) (s : Store) : Outcome Rendering :=
  host.presentation document [] s

end ServerUi
