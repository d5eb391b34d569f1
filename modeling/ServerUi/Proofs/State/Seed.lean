import ServerUi.Builder.Interactive
import ServerUi.Proofs.Json.Members
import ServerUi.Proofs.Render.Laws
import ServerUi.Widget.Summary

/-! The value that an interactive node is given by its document, and what becomes of it: a store
that remembers a value for the node's identity goes before it, if the node can show that value. -/

namespace ServerUi

theorem exists_of_isOption {options : List String} {v : Json}
    (h : Builder.isOption options v = true) : ∃ choice ∈ options, v = .str choice := by
  cases v with
  | str choice => exact ⟨choice, List.contains_iff_mem.mp h, rfl⟩
  | _ => cases h

inductive Seed where
  | checkbox (label : Option String) (checked : Bool)
  | dropdown (first : String) (others : List String) (label : Option String)

namespace Seed

/-- The value that the leaf starts from. -/
def initial : Seed → Json
  | checkbox _ checked => .bool checked
  | dropdown first _ _ => .str first

/-- Whether the leaf can show a value. -/
def admits : Seed → Json → Bool
  | checkbox _ _, _ => true
  | dropdown first others _, v => Builder.isOption (first :: others) v

theorem admits_initial (seed : Seed) : seed.admits seed.initial = true := by
  cases seed with
  | checkbox label checked => rfl
  | dropdown first others label => simp [admits, initial, Builder.isOption]

def leaf : Seed → Cell → Leaf
  | checkbox label _, cell => .checkbox label (some cell)
  | dropdown first others label, cell => .dropdown (first :: others) label (some cell)

/-- Binds the cell, and writes it again if the leaf cannot show what it holds. -/
def sow (seed : Seed) (key : String) : Pass Widget := do
  let cell ← Pass.bindCell key seed.initial
  let cell ← if seed.admits cell.value then pure cell else Pass.writeCell cell seed.initial
  return .leaf (seed.leaf cell)

end Seed

namespace Store

/-- The value that a leaf shows when it has just been built. -/
def held (s : Store) (key : String) (seed : Seed) : Json :=
  ((s.get? key).filter seed.admits).getD seed.initial

def sown (s : Store) (key : String) (seed : Seed) : Store :=
  match s with
  | ephemeral => ephemeral
  | memory values =>
    if (values.lookup key).any seed.admits then memory values
    else memory (values.put key seed.initial)

/-- A remembered value that the node cannot show is replaced, and the store reports it. -/
def replaced (s : Store) (key : String) (seed : Seed) : List (String × Json) :=
  if (s.get? key).all seed.admits then [] else [(key, seed.initial)]

end Store

/-- The identity of an interactive widget, and the value that it shows. -/
def Widget.input? : Widget → Option (String × Json)
  | .leaf (.checkbox _ (some cell)) => some (cell.key, .bool (checkedValue (some cell)))
  | .leaf (.dropdown options _ (some cell)) => some (cell.key, selectedValue options (some cell))
  | _ => none

/-- The interactive widget that an event reports as built. -/
def Event.input? : Event → Option (String × Json)
  | finished _ (some w) => w.input?
  | _ => none

/-- A view of events that shows neither what is logged nor what is written to a store. -/
structure Event.Blind (f : Event → Option β) : Prop where
  note : ∀ n, f (.note n) = none
  changed : ∀ key v, f (.changed key v) = none

theorem Event.input?_blind : Event.Blind Event.input? := ⟨fun _ => rfl, fun _ _ => rfl⟩

theorem notes_unseen {f : Event → Option β} {notices : List Notice}
    (h : ∀ n ∈ notices, f (.note n) = none) : (notices.map Event.note).filterMap f = [] := by
  rw [List.filterMap_map, List.filterMap_eq_nil_iff]
  exact h

theorem change?_notes (notices : List Notice) :
    (notices.map Event.note).filterMap Event.change? = [] :=
  notes_unseen fun _ _ => rfl

/-- The events of a write to a memory store. -/
def written (changes : List (String × Json)) : List Event :=
  changes.flatMap fun (key, v) => [.note (.stateWritten key v), .changed key v]

theorem written_unseen {f : Event → Option β}
    (hnote : ∀ key v, f (.note (.stateWritten key v)) = none)
    (hchanged : ∀ key v, f (.changed key v) = none) (changes : List (String × Json)) :
    (written changes).filterMap f = [] := by
  induction changes with
  | nil => rfl
  | cons change rest ih =>
    change List.filterMap f (.note _ :: .changed _ _ :: written rest) = []
    rw [List.filterMap_cons_none (hnote _ _), List.filterMap_cons_none (hchanged _ _), ih]

/-- A node is shown with what it holds, and the store has its value then. -/
theorem Seed.sow_run (seed : Seed) (key : String) (path : Path) (s : Store) :
    seed.sow key path s = ⟨.leaf (seed.leaf ⟨key, s.held key seed⟩), path, s.sown key seed,
      written (s.replaced key seed)⟩ := by
  cases s with
  | ephemeral =>
    simp [sow, Pass.bind_run, Pass.bindCell, Store.bind, admits_initial, Pass.pure_run, Store.held,
      Store.get?, Store.snapshot, Store.sown, Store.replaced, written]
  | memory values =>
    cases h : values.lookup key with
    | none =>
      simp [sow, Pass.bind_run, Pass.bindCell, Store.bind, h, admits_initial, Pass.pure_run,
        Store.held, Store.get?, Store.snapshot, Store.sown, Store.replaced, written]
    | some v =>
      by_cases hadmits : seed.admits v = true
      · simp [sow, Pass.bind_run, Pass.bindCell, Store.bind, h, hadmits, Pass.pure_run, Store.held,
          Store.get?, Store.snapshot, Store.sown, Store.replaced, written, Option.filter]
      · simp only [sow, Pass.bind_run, Pass.bindCell, Store.bind, h, hadmits, Pass.pure_run,
          Pass.writeCell, Cell.write, Store.write, if_false, Store.held, Store.get?,
          Store.snapshot, Store.sown, Store.replaced, Option.filter, Option.any_some,
          Option.all_some, Option.getD_none, Bool.false_eq_true]
        rfl

end ServerUi
