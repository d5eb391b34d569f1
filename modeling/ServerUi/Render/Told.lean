import ServerUi.Render.Node
import ServerUi.Wording

/-! Rendering a document while the log of it is told. A record that cannot be told is a fault of the
builder at work. That of a builder's own fault is written where the fault is to be contained; if it
cannot be told, what comes of that goes on to the node around it, and at the root it leaves the
call. -/

namespace ServerUi

/-- A pass that may end in a fault. -/
abbrev Telling := ExceptT Fault Pass

def Event.untold? (told : Wording) (e : Event) : Option Fault :=
  e.notice?.bind (Notice.untold? told)

/-- A step of a pass, which ends at the first record that is not told. -/
def Pass.told (told : Wording) (p : Pass α) : Telling α := ExceptT.mk fun path s =>
  let o := p path s
  { o with
    value := (o.events.findSome? (Event.untold? told)).elim (.ok o.value) .error
    events := o.events.takeWhile fun e => (e.untold? told).isNone }

def Telling.under (segment : String) (p : Telling α) : Telling α :=
  ExceptT.mk (Pass.under segment p.run)

section Parts

variable (told : Wording)

/-- A document whose every part knows how to render itself while the log is told. -/
abbrev TellingPart := Part (Telling (Option Widget))

def renderItemsTold : Nat → List TellingPart → Telling (List Widget)
  | _, [] => pure []
  | i, p :: rest =>
    match p.value with
    | .obj _ => do
      let w ← Telling.under (toString i) p.render
      let ws ← renderItemsTold (i + 1) rest
      return w.toList ++ ws
    | v => do
      Pass.told told (Pass.emit [.note (.childSkipped i v)])
      renderItemsTold (i + 1) rest

def renderMemberTold (p : TellingPart) (field : String) : Telling (Option Widget) :=
  match p.members.lookup field with
  | none => pure none
  | some q =>
    match q.value with
    | .null => pure none
    | .obj _ => Telling.under field q.render
    | v => do
      Pass.told told (Pass.emit [.note (.childIgnored field v)])
      return none

/-- Runs a builder's program for the node `p`, up to the first fault of its own, of its log, or of a
part that it asks for. -/
def Build.runTold (images : Option (ImageSource → Report Bool)) (p : TellingPart) :
    Build α → Telling α
  | done a => pure a
  | fail fault => throw fault
  | note n next => do
    Pass.told told (Pass.emit [.note n])
    next.runTold images p
  | key place next => do
    let k := identity ((p.at? place).map (·.value.config) |>.getD []) (← Pass.here)
    (next k).runTold images p
  | node place next => do
    let w ← (p.at? place).elim (Pass.told told renderMissing) Part.render
    (next w).runTold images p
  | children place next => do
    let ws ← renderItemsTold told 0 ((p.at? place).elim [] Part.items)
    (next ws).runTold images p
  | child place field next => do
    let w ← (p.at? place).elim (pure none) (renderMemberTold told · field)
    (next w).runTold images p
  | bind k v next => do
    let cell ← Pass.bindCell k v
    (next cell).runTold images p
  | write cell v next => do
    let cell ← Pass.told told (Pass.writeCell cell v)
    (next cell).runTold images p
  | loads source next => do
    match ← Pass.told told (askLoader images source) with
    | .ok b => (next b).runTold images p
    | .error fault => throw fault

/-- One step down to a node of a type, whose identity is `key`. What its builder fails with ends
here, unless the record of it cannot be told. -/
def containedTold (tag : String) (key : Path → String) (build : Telling (Option Widget)) :
    Telling (Option Widget) :=
  Telling.under tag <| ExceptT.mk do
    let path ← Pass.here
    Pass.emit [.built path (key path)]
    match ← build.run with
    | .ok w => do
      Pass.emit [.finished (← Pass.here) w]
      return .ok w
    | .error fault => (Pass.told told do
      let w ← reportError (.failed fault) key
      Pass.emit [.note .builderTraceback]
      return w).run

def buildNodeTold (host : Host) (config : Config) (parts : List (String × TellingPart)) :
    Telling (Option Widget) :=
  match config.name? "type" with
  | none => Pass.told told (reportError .missingType (identity config))
  | some tag =>
    match host.registry.lookup tag with
    | none => Pass.told told (reportError (.unknownType tag) (identity config))
    | some builder =>
      containedTold told tag (identity config)
        ((builder config).runTold told host.images (.mk (.obj config) (pure none) [] parts))

mutual

/-- The value with what rendering each of its parts does. -/
def partedTold (host : Host) : Json → TellingPart
  | .obj members =>
    let parts := partedMembersTold host members
    .mk (.obj members) (buildNodeTold told host members parts) [] parts
  | .arr items =>
    .mk (.arr items) (Pass.told told (reportError (.malformed (.arr items)) (identity [])))
      (partedItemsTold host items) []
  | v => .mk v (Pass.told told (reportError (.malformed v) (identity []))) [] []

def partedItemsTold (host : Host) : List Json → List TellingPart
  | [] => []
  | v :: rest => partedTold host v :: partedItemsTold host rest

def partedMembersTold (host : Host) : List (String × Json) → List (String × TellingPart)
  | [] => []
  | (k, v) :: rest => (k, partedTold host v) :: partedMembersTold host rest

end

end Parts

def Host.renderTold (host : Host) (told : Wording) (v : Json) : Telling (Option Widget) :=
  (partedTold told host v).render

end ServerUi
