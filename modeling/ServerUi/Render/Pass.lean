import ServerUi.State.Store

/-! Computations on the way to the node in hand and on a store, that record what happens. They do
not fail. -/

namespace ServerUi

/-- The way from the root to a node: types, indices among children, and field names. -/
abbrev Path := List String

/-- A result, the way and the store behind it, and what happened in between, in order. -/
structure Outcome (α : Type) where
  value : α
  path : Path
  store : Store
  events : List Event

def Pass (α : Type) := Path → Store → Outcome α

namespace Pass

def andThen (p : Pass α) (f : α → Pass β) : Pass β := fun path s =>
  let first := p path s
  let second := f first.value first.path first.store
  ⟨second.value, second.path, second.store, first.events ++ second.events⟩

instance : Monad Pass where
  pure a := fun path s => ⟨a, path, s, []⟩
  bind := andThen

def emit (events : List Event) : Pass Unit := fun path s => ⟨(), path, s, events⟩

def here : Pass Path := fun path s => ⟨path, path, s, []⟩

/-- Goes one step down, and back up behind it, whatever the outcome below. -/
def under (segment : String) (p : Pass α) : Pass α := fun path s =>
  let below := p (path ++ [segment]) s
  { below with path := below.path.dropLast }

def bindCell (key : String) (initial : Json) : Pass Cell := fun path s =>
  let (cell, s) := s.bind key initial
  ⟨cell, path, s, []⟩

def writeCell (cell : Cell) (value : Json) : Pass Cell := fun path s =>
  let (cell, s, events) := cell.write value s
  ⟨cell, path, s, events⟩

end Pass

end ServerUi
