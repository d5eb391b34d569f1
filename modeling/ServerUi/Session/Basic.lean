import ServerUi.Action.Dispatch
import ServerUi.Render.Told
import ServerUi.Widget.Change
import ServerUi.Widget.Plain

/-! A session of a host: documents are rendered again and again with the same builders, store and
dispatcher, and the widgets that came out are pressed and changed in between. -/

namespace ServerUi

/-- What a subscriber, known by its number, was told. -/
structure Heard where
  subscriber : Nat
  key : String
  value : Json

/-- Trees and cells are kept by name, and values keep what has happened to them. The way to the
node in hand is empty between two calls, as long as every step down is taken back. -/
structure Session where
  host : Host
  path : Path
  store : Store
  dispatcher : Dispatcher
  trees : List (String × Option Widget)
  cells : List (String × Cell)
  shown : Shown
  subscribers : Nat
  heard : List Heard

inductive Refusal where
  | noTree (name : String)
  | noCell (name : String)
  | noWidget
  | notPressable (w : Widget)
  | notChangeable (w : Widget)
  /-- Only a memory store can be asked for its values. -/
  | noMemory

/-- A result and the log that was written on the way. -/
structure Logged (α : Type) where
  result : α
  notices : List Notice

/-- The log is told record by record, and the first that is not told is the end of it. -/
def Logged.written (w : Wording) (logged : Logged α) : Logged (Except Fault α) :=
  ⟨(w.stop? logged.notices).elim (.ok logged.result) .error, w.written logged.notices⟩

namespace Session

def start (host : Host) (store : Store) (snackbar : Option (Custom String)) : Session where
  host := host
  path := []
  store := store
  dispatcher := .standard snackbar
  trees := []
  cells := []
  shown := []
  subscribers := 0
  heard := []

/-- What the subscribers hear of one change, in the order in which they subscribed. -/
def told (subscribers : Nat) (key : String) (v : Json) : List Heard :=
  (List.range subscribers).map fun i => ⟨i, key, v⟩

def advance (x : Session) (s : Store) (events : List Event) : Session :=
  { x with
    store := s
    heard := x.heard ++
      (events.filterMap Event.change?).flatMap fun (key, v) => told x.subscribers key v }

def noticesOf (events : List Event) : List Notice := events.filterMap Event.notice?

def perform (x : Session) (p : Pass α) : Logged α × Session :=
  let outcome := p x.path x.store
  (⟨outcome.value, noticesOf outcome.events⟩,
    { x.advance outcome.store outcome.events with path := outcome.path })

/-- Puts an entry in front of, and in place of, the one with the same name. -/
def keep (entries : List (String × α)) (name : String) (a : α) : List (String × α) :=
  (name, a) :: entries.filter (·.1 != name)

def render (x : Session) (name : String) (node : Json) : Logged (Option Widget) × Session :=
  let (logged, x) := x.perform (x.host.render node)
  (logged, { x with trees := keep x.trees name logged.result })

/-- Renders a document, and what happens is told to the log. A tree is kept if rendering returns. -/
def renderTold (x : Session) (w : Wording) (name : String) (node : Json) :
    Logged (Except Fault (Option Widget)) × Session :=
  let (logged, x) := x.perform (x.host.renderTold w node).run
  (logged, { x with trees := logged.result.toOption.elim x.trees (keep x.trees name) })

def renderUnder (x : Session) (name : String) (config : Json) (field : String) :
    Logged (Option Widget) × Session :=
  let (logged, x) := x.perform (x.host.renderUnder config field)
  (logged, { x with trees := keep x.trees name logged.result })

/-- Renders the items of an array; nothing is kept. -/
def renderEach (x : Session) (items : Json) : Logged (List Widget) × Session :=
  x.perform (x.host.renderEach items)

def widgets (x : Session) (name : String) : Except Refusal (List Widget) :=
  match x.trees.lookup name with
  | none => .error (.noTree name)
  | some tree => .ok (tree.elim [] Widget.walk)

def widget (x : Session) (name : String) (place : Nat) : Except Refusal Widget := do
  match (← x.widgets name)[place]? with
  | none => throw .noWidget
  | some w => return w

/-- The user changes a leaf of a kept tree. -/
def changeLeaf (x : Session) (name : String) (place : Nat) (v : Json) (l : Leaf) :
    Logged Widget × Session :=
  let (l, s, events) := l.change v x.store
  let tree := (x.trees.lookup name).join.map (Widget.changeAt (fun _ => l) place)
  (⟨.leaf l, noticesOf events⟩, { x.advance s events with trees := keep x.trees name tree })

/-- The user changes a widget, if it is one that can be changed. -/
def change (x : Session) (name : String) (place : Nat) (v : Json) :
    Except Refusal (Logged Widget × Session) :=
  match x.widget name place with
  | .error refusal => .error refusal
  | .ok (.leaf l) =>
    if (Widget.leaf l).isChangeable then .ok (x.changeLeaf name place v l)
    else .error (.notChangeable (.leaf l))
  | .ok w => .error (.notChangeable w)

def dispatch (x : Session) (action : Json) : Logged Shown × Session :=
  let press := x.dispatcher.dispatch action
  let shown := x.shown ++ press.shown
  (⟨shown, press.notices⟩, { x with shown })

/-- The user presses a button; only one that came with an action carries one out. -/
def press (x : Session) (name : String) (place : Nat) :
    Except Refusal (Logged Shown × Session) := do
  match ← x.widget name place with
  | .leaf (.button _ (some action)) => return x.dispatch action
  | .leaf (.button _ none) => return (⟨x.shown, []⟩, x)
  | w => throw (.notPressable w)

/-- The user presses a button, and what happens is told to the log. Whatever of it cannot be told is
raised out of the press, behind all that the press has called and shown. -/
def pressTold (x : Session) (w : Wording) (name : String) (place : Nat) :
    Except Refusal (Logged (Except Fault Shown) × Session) := do
  let (logged, y) ← x.press name place
  return (logged.written w, y)

def registerAction (x : Session) (kind : String) (model : ActionModel) (handler : Handler) :
    Session :=
  { x with dispatcher := x.dispatcher.register kind model handler }

def register (x : Session) (tag : Json) (builder : Option Builder) :
    Logged (Except RegistrationError Nat) × Session :=
  match x.host.registry.register tag builder with
  | .error e => (⟨.error e, []⟩, x)
  | .ok (registry, notices) =>
    (⟨.ok registry.size, notices⟩, { x with host := { x.host with registry } })

def unregister (x : Session) (tag : String) : Bool × Session :=
  (x.host.registry.contains tag,
    { x with host := { x.host with registry := x.host.registry.erase tag } })

def bind (x : Session) (name key : String) (initial : Json) : Cell × Session :=
  let (cell, s) := x.store.bind key initial
  (cell, { x with store := s, cells := keep x.cells name cell })

def cell (x : Session) (name : String) : Except Refusal Cell :=
  match x.cells.lookup name with
  | none => .error (.noCell name)
  | some cell => .ok cell

def set (x : Session) (name : String) (v : Json) : Except Refusal (Logged Cell × Session) := do
  let (cell, s, events) := (← x.cell name).write v x.store
  return (⟨cell, noticesOf events⟩,
    { x.advance s events with cells := keep x.cells name cell })

def remembered (x : Session) : Except Refusal Config :=
  match x.store with
  | .ephemeral => .error .noMemory
  | .memory _ => .ok x.store.snapshot

/-- Adds a subscriber, who hears of every later change. -/
def subscribe (x : Session) : Except Refusal Session :=
  match x.store with
  | .ephemeral => .error .noMemory
  | .memory _ => .ok { x with subscribers := x.subscribers + 1 }

def clear (x : Session) : Except Refusal Session :=
  match x.store with
  | .ephemeral => .error .noMemory
  | .memory _ => .ok { x with store := x.store.clear }

end Session

end ServerUi
