import ServerUi.Builder.Program
import ServerUi.Field
import ServerUi.Render.Pass

/-! A document whose every part knows how to render itself as a node. Running a builder needs no
more: what it asks about the parts of its node is looked up here. -/

namespace ServerUi

/-- A value, how it is rendered as a node, and its items or members. -/
inductive Part (ρ : Type := Pass (Option Widget)) where
  | mk (value : Json) (render : ρ) (items : List (Part ρ)) (members : List (String × Part ρ))

namespace Part

variable {ρ : Type}

def value : Part ρ → Json
  | mk v _ _ _ => v

def render : Part ρ → ρ
  | mk _ r _ _ => r

def items : Part ρ → List (Part ρ)
  | mk _ _ items _ => items

def members : Part ρ → List (String × Part ρ)
  | mk _ _ _ members => members

def at? : Part ρ → Place → Option (Part ρ)
  | p, [] => some p
  | p, .member key :: rest => (p.members.lookup key).bind fun q => q.at? rest
  | p, .item i :: rest => p.items[i]?.bind fun q => q.at? rest

end Part

/-- The identity of a node: its own `id`, or its path. -/
def identity (config : Config) (path : Path) : String :=
  (config.name? "id").getD ("/".intercalate path)

def Json.config : Json → Config
  | .obj members => members
  | _ => []

/-- A node that cannot be built is shown as an error and reported under its identity. -/
def reportError (error : NodeError) (key : Path → String) : Pass (Option Widget) := do
  Pass.emit [.note (.node error (key (← Pass.here)))]
  return some (.error error.message)

/-- What is left when a part is asked for that is not there. -/
def renderMissing : Pass (Option Widget) := reportError (.malformed .null) (identity [])

/-- The objects among items, rendered in order; the others are left out but still counted. -/
def renderItems : Nat → List Part → Pass (List Widget)
  | _, [] => pure []
  | i, p :: rest =>
    match p.value with
    | .obj _ => do
      let w ← Pass.under (toString i) p.render
      let ws ← renderItems (i + 1) rest
      return w.toList ++ ws
    | v => do
      Pass.emit [.note (.childSkipped i v)]
      renderItems (i + 1) rest

def renderMember (p : Part) (field : String) : Pass (Option Widget) :=
  match p.members.lookup field with
  | none => pure none
  | some q =>
    match q.value with
    | .null => pure none
    | .obj _ => Pass.under field q.render
    | v => do
      Pass.emit [.note (.childIgnored field v)]
      return none

def askLoader (images : Option (ImageSource → Report Bool)) (source : ImageSource) :
    Pass (Except Fault Bool) :=
  match images with
  | none => pure (.ok true)
  | some loader => do
    Pass.emit ((loader source).notices.map .note)
    return (loader source).outcome

/-- Runs a builder's program for the node `p`. A place that is not there reads as null, and a
builder cannot ask for the node that it is building. -/
def Build.run (images : Option (ImageSource → Report Bool)) (p : Part) :
    Build α → Pass (Except Fault α)
  | done a => pure (.ok a)
  | fail fault => pure (.error fault)
  | note n next => do
    Pass.emit [.note n]
    next.run images p
  | key place next => do
    let k := identity ((p.at? place).map (·.value.config) |>.getD []) (← Pass.here)
    (next k).run images p
  | node place next => do
    let w ← (p.at? place).elim renderMissing Part.render
    (next w).run images p
  | children place next => do
    let ws ← renderItems 0 ((p.at? place).elim [] Part.items)
    (next ws).run images p
  | child place field next => do
    let w ← (p.at? place).elim (pure none) (renderMember · field)
    (next w).run images p
  | bind k v next => do
    let cell ← Pass.bindCell k v
    (next cell).run images p
  | write cell v next => do
    let cell ← Pass.writeCell cell v
    (next cell).run images p
  | loads source next => do
    match ← askLoader images source with
    | .ok b => (next b).run images p
    | .error fault => return .error fault

end ServerUi
