import ServerUi.Notice
import ServerUi.Widget.Basic

/-! Stores for the values of interactive widgets. An ephemeral store keeps nothing, so each cell
starts from its document; a memory store keeps one value for each identity. -/

namespace ServerUi

inductive Store where
  | ephemeral
  | memory (values : Config)

inductive Event where
  | note (n : Notice)
  /-- A builder starts at a path, for the node with the given identity. -/
  | built (path : List String) (key : String)
  /-- The builder at a path is done, with a widget or with nothing to show. -/
  | finished (path : List String) (w : Option Widget)
  | changed (key : String) (value : Json)

namespace Event

def notice? : Event → Option Notice
  | note n => some n
  | _ => none

def change? : Event → Option (String × Json)
  | changed key value => some (key, value)
  | _ => none

end Event

namespace Store

/-- The cell for an identity. It starts with the remembered value if there is one, else with the
given one, which is then remembered. -/
def bind : Store → String → Json → Cell × Store
  | ephemeral, key, initial => (⟨key, initial⟩, ephemeral)
  | memory values, key, initial =>
    match values.lookup key with
    | some v => (⟨key, v⟩, memory values)
    | none => (⟨key, initial⟩, memory (values.put key initial))

/-- Remembers a new value for an identity. The change is logged before subscribers hear of it. -/
def write : Store → String → Json → Store × List Event
  | ephemeral, _, _ => (ephemeral, [])
  | memory values, key, v =>
    (memory (values.put key v), [.note (.stateWritten key v), .changed key v])

/-- The remembered values, in the order in which their identities were first bound. -/
def snapshot : Store → Config
  | ephemeral => []
  | memory values => values

def get? (s : Store) (key : String) : Option Json := s.snapshot.lookup key

def clear : Store → Store
  | ephemeral => ephemeral
  | memory _ => memory []

end Store

def Cell.text (c : Cell) : String := s!"StateCell({quoted c.key}, {c.value.literal})"

def Cell.write (c : Cell) (v : Json) (s : Store) : Cell × Store × List Event :=
  ({ c with value := v }, s.write c.key v)

end ServerUi
