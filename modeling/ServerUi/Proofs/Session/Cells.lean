import Mathlib.Data.List.Induction
import ServerUi.Proofs.Render.Document
import ServerUi.Proofs.Session.History
import ServerUi.Proofs.State.Seed

/-! Cells that a memory store has handed out. Each has a value of its own; what is written to one
goes to the store, and to no other cell. -/

namespace ServerUi

def Leaf.cell? : Leaf → Option Cell
  | .checkbox _ cell => cell
  | .dropdown _ _ cell => cell
  | _ => none

/-- What the widget of an input writes to its cell when it is changed. -/
def Seed.taken : Seed → Json → Option Json
  | checkbox _ _, v => some (.bool v.truth)
  | dropdown first others _, v => if Builder.isOption (first :: others) v then some v else none

/-- A change of an interactive widget writes its cell, or leaves it and the store alone. -/
theorem Seed.change_leaf (seed : Seed) (cell : Cell) (v : Json) (s : Store) :
    let after := (seed.leaf cell).change v s
    (after.1.cell?, after.2.1) =
      match seed.taken v with
      | some u => (some (cell.write u s).1, (cell.write u s).2.1)
      | none => (some cell, s) := by
  cases seed with
  | checkbox label checked => rfl
  | dropdown first others label =>
    cases v with
    | str choice =>
      by_cases h : (first :: others).contains choice = true
      · simp only [leaf, Leaf.change, taken, Builder.isOption, h, if_true]
        rfl
      · simp only [leaf, Leaf.change, taken, Builder.isOption, h]
        rfl
    | _ => rfl

/-- A memory store, and the cells that it has handed out, in their order. -/
structure Handed where
  values : Config
  cells : List Cell

inductive CellCall where
  | bind (key : String) (initial : Json)
  | set (i : Nat) (v : Json)
  /-- A widget of the cell is changed by its user. -/
  | change (i : Nat) (seed : Seed) (v : Json)

/-- The cell that a call writes, and the value. -/
def CellCall.write? : CellCall → Option (Nat × Json)
  | bind .. => none
  | set i v => some (i, v)
  | change i seed v => (seed.taken v).map fun u => (i, u)

namespace Handed

def start : Handed := ⟨[], []⟩

def store (h : Handed) : Store := .memory h.values

def bound (h : Handed) (key : String) (initial : Json) : Handed :=
  let (cell, s) := h.store.bind key initial
  ⟨s.snapshot, h.cells ++ [cell]⟩

def written (h : Handed) (i : Nat) (v : Json) : Handed :=
  match h.cells[i]? with
  | none => h
  | some cell =>
    let (cell, s, _) := cell.write v h.store
    ⟨s.snapshot, h.cells.set i cell⟩

def changed (h : Handed) (i : Nat) (seed : Seed) (v : Json) : Handed :=
  match h.cells[i]? with
  | none => h
  | some cell =>
    let (l, s, _) := (seed.leaf cell).change v h.store
    ⟨s.snapshot, h.cells.set i (l.cell?.getD cell)⟩

def call (h : Handed) : CellCall → Handed
  | .bind key initial => h.bound key initial
  | .set i v => h.written i v
  | .change i seed v => h.changed i seed v

def run (h : Handed) (calls : List CellCall) : Handed := calls.foldl call h

theorem changed_eq (h : Handed) (i : Nat) (seed : Seed) (v : Json) :
    h.changed i seed v = (seed.taken v).elim h (h.written i) := by
  unfold changed
  cases hcell : h.cells[i]? with
  | none => cases seed.taken v <;> simp [written, hcell]
  | some cell =>
    have hchange := seed.change_leaf cell v h.store
    cases htaken : seed.taken v with
    | none =>
      rw [htaken] at hchange
      obtain ⟨hleaf, hstore⟩ := Prod.mk.inj hchange
      have hsame : h.cells.set i cell = h.cells := by
        obtain ⟨hi, rfl⟩ := List.getElem?_eq_some_iff.mp hcell
        exact List.set_getElem_self hi
      simp only [hleaf, hstore, Option.getD_some, Option.elim_none, hsame]
      rfl
    | some u =>
      rw [htaken] at hchange
      obtain ⟨hleaf, hstore⟩ := Prod.mk.inj hchange
      simp only [hleaf, hstore, Option.getD_some, Option.elim_some, written, hcell]

/-- All that a call does: it writes a cell, or it binds one, or a widget refuses the change. -/
theorem call_cases (h : Handed) (c : CellCall) :
    (∃ i v, c.write? = some (i, v) ∧ h.call c = h.written i v) ∨
    (∃ key initial, c = .bind key initial) ∨
    ∃ i seed v, c = .change i seed v ∧ c.write? = none ∧ h.call c = h := by
  cases c with
  | bind key initial => exact .inr (.inl ⟨key, initial, rfl⟩)
  | set i v => exact .inl ⟨i, v, rfl, rfl⟩
  | change i seed v =>
    have hchanged := h.changed_eq i seed v
    cases htaken : seed.taken v with
    | none =>
      rw [htaken] at hchanged
      refine .inr (.inr ⟨i, seed, v, rfl, ?_, hchanged⟩)
      rw [CellCall.write?, htaken, Option.map_none]
    | some u =>
      rw [htaken] at hchanged
      exact .inl ⟨i, u, by rw [CellCall.write?, htaken, Option.map_some], hchanged⟩

section Steps

variable (h : Handed) (key : String) (initial : Json)

theorem bound_eq :
    (h.bound key initial).cells = h.cells ++ [⟨key, (h.values.lookup key).getD initial⟩] ∧
    ∀ k, (h.bound key initial).values.lookup k =
      if k = key then some ((h.values.lookup key).getD initial) else h.values.lookup k := by
  simp only [bound, store, Store.bind]
  cases hv : h.values.lookup key with
  | none => exact ⟨rfl, Config.lookup_put h.values key initial⟩
  | some v =>
    refine ⟨rfl, fun k => ?_⟩
    by_cases hk : k = key
    · subst hk
      rw [if_pos rfl]
      exact hv
    · rw [if_neg hk]
      rfl

theorem written_eq {i : Nat} {cell : Cell} (hcell : h.cells[i]? = some cell) (v : Json) :
    (h.written i v).cells = h.cells.set i ⟨cell.key, v⟩ ∧
    ∀ k, (h.written i v).values.lookup k =
      if k = cell.key then some v else h.values.lookup k := by
  simp only [written, hcell]
  exact ⟨rfl, Config.lookup_put h.values cell.key v⟩

theorem written_missing {i : Nat} (hcell : h.cells[i]? = none) (v : Json) : h.written i v = h := by
  rw [written, hcell]

end Steps

/-- The cells of an identity all read the same value, the one that the store has. -/
def Coherent (h : Handed) : Prop :=
  ∀ (i : Nat) (cell : Cell), h.cells[i]? = some cell → h.store.get? cell.key = some cell.value

/-- The call writes to a cell only what the other cells of its identity read already. -/
def Harmless (h : Handed) (c : CellCall) : Prop :=
  ∀ i v, c.write? = some (i, v) → ∀ cell, h.cells[i]? = some cell →
    ∀ (j : Nat) (other : Cell), j ≠ i → h.cells[j]? = some other → other.key = cell.key →
      other.value = v

section Harmless

variable {h : Handed} {c : CellCall} {i : Nat} {v : Json}

theorem Harmless.of_write?_none (hwrite : c.write? = none) : h.Harmless c := by
  intro i v hwrite'
  rw [hwrite] at hwrite'
  cases hwrite'

theorem Harmless.of_missing (hwrite : c.write? = some (i, v)) (hcell : h.cells[i]? = none) :
    h.Harmless c := by
  intro i' v' hwrite' cell hcell'
  cases hwrite.symm.trans hwrite'
  rw [hcell] at hcell'
  cases hcell'

theorem harmless_iff (hwrite : c.write? = some (i, v)) {cell : Cell}
    (hcell : h.cells[i]? = some cell) :
    h.Harmless c ↔ ∀ (j : Nat) (other : Cell), j ≠ i → h.cells[j]? = some other →
      other.key = cell.key → other.value = v := by
  refine ⟨fun hharmless => hharmless i v hwrite cell hcell, fun hothers => ?_⟩
  intro i' v' hwrite' cell' hcell'
  cases hwrite.symm.trans hwrite'
  cases hcell.symm.trans hcell'
  exact hothers

end Harmless

namespace Coherent

variable {h : Handed}

theorem bound (hh : h.Coherent) (key : String) (initial : Json) :
    (h.bound key initial).Coherent := by
  obtain ⟨hcells, hlookup⟩ := h.bound_eq key initial
  intro i cell hcell
  change (h.bound key initial).values.lookup cell.key = _
  rw [hlookup]
  rw [hcells] at hcell
  rcases List.mem_append.mp (List.mem_of_getElem? hcell) with hold | hnew
  · obtain ⟨j, hj⟩ := List.mem_iff_getElem?.mp hold
    have hread : h.values.lookup cell.key = some cell.value := hh j cell hj
    split
    · next hk => rw [← hk, hread, Option.getD_some]
    · exact hread
  · rw [List.mem_singleton.mp hnew, if_pos rfl]

theorem written_iff (hh : h.Coherent) {i : Nat} {cell : Cell} (hcell : h.cells[i]? = some cell)
    (v : Json) :
    (h.written i v).Coherent ↔
      ∀ (j : Nat) (other : Cell), j ≠ i → h.cells[j]? = some other → other.key = cell.key →
        other.value = v := by
  obtain ⟨hcells, hlookup⟩ := h.written_eq hcell v
  constructor
  · intro hafter j other hji hother hkey
    have hread := hafter j other (by rw [hcells, List.getElem?_set_ne hji.symm, hother])
    change (h.written i v).values.lookup other.key = _ at hread
    rw [hlookup, if_pos hkey] at hread
    exact (Option.some.inj hread).symm
  · intro hothers j other hother
    change (h.written i v).values.lookup other.key = _
    rw [hlookup]
    rw [hcells] at hother
    by_cases hji : j = i
    · subst hji
      rw [List.getElem?_set_self (List.getElem?_eq_some_iff.mp hcell).1] at hother
      rw [← Option.some.inj hother, if_pos rfl]
    · rw [List.getElem?_set_ne (Ne.symm hji)] at hother
      split
      · next hkey => rw [hothers j other hji hother hkey]
      · exact hh j other hother

theorem call_iff (hh : h.Coherent) (c : CellCall) : (h.call c).Coherent ↔ h.Harmless c := by
  rcases h.call_cases c with
    ⟨i, v, hwrite, hcall⟩ | ⟨key, initial, rfl⟩ | ⟨_, _, _, _, hwrite, hcall⟩
  · rw [hcall]
    cases hcell : h.cells[i]? with
    | none =>
      rw [h.written_missing hcell]
      exact iff_of_true hh (.of_missing hwrite hcell)
    | some cell => rw [hh.written_iff hcell, harmless_iff hwrite hcell]
  · exact iff_of_true (hh.bound key initial) (.of_write?_none rfl)
  · rw [hcall]
    exact iff_of_true hh (.of_write?_none hwrite)

end Coherent

/-- The identity and the place of the cell that a call binds or writes. -/
def touched (h : Handed) (c : CellCall) : Option (String × Nat) :=
  match c, c.write? with
  | .bind key _, _ => some (key, h.cells.length)
  | _, some (i, _) => h.cells[i]?.map fun cell => (cell.key, i)
  | _, none => none

def newestCall (h : Handed) (last : String → Option Nat) (c : CellCall) : String → Option Nat :=
  match h.touched c with
  | some (key, i) => fun k => if k = key then some i else last k
  | none => last

/-- The place of the cell of each identity that was bound or written last. -/
def newest (h : Handed) (last : String → Option Nat) : List CellCall → String → Option Nat
  | [] => last
  | c :: rest => (h.call c).newest (h.newestCall last c) rest

/-- The store reads what a cell of each identity reads, at the given places. -/
structure Current (h : Handed) (last : String → Option Nat) : Prop where
  placed : ∀ key i, last key = some i →
    ∃ cell, h.cells[i]? = some cell ∧ cell.key = key ∧ h.store.get? key = some cell.value
  absent : ∀ key, last key = none → h.store.get? key = none

namespace Current

variable {h after : Handed} {last : String → Option Nat}

theorem touch (hh : h.Current last) {i : Nat} (cell : Cell)
    (hcell : after.cells[i]? = some cell)
    (hlookup : ∀ k, after.values.lookup k =
      if k = cell.key then some cell.value else h.values.lookup k)
    (hkeep : ∀ (j : Nat) (other : Cell), h.cells[j]? = some other → other.key ≠ cell.key →
      after.cells[j]? = some other) :
    after.Current fun k => if k = cell.key then some i else last k := by
  have hread (k : String) : after.store.get? k = _ := hlookup k
  constructor
  · intro key j hj
    rw [hread]
    by_cases hkey : key = cell.key
    · rw [if_pos hkey] at hj
      cases hj
      exact ⟨cell, hcell, hkey.symm, if_pos hkey⟩
    · rw [if_neg hkey] at hj
      obtain ⟨other, hother, rfl, hvalue⟩ := hh.placed key j hj
      exact ⟨other, hkeep j other hother hkey, rfl, by rw [if_neg hkey]; exact hvalue⟩
  · intro key hnone
    by_cases hkey : key = cell.key
    · rw [if_pos hkey] at hnone
      cases hnone
    · rw [if_neg hkey] at hnone
      rw [hread, if_neg hkey]
      exact hh.absent key hnone

theorem bound (hh : h.Current last) (key : String) (initial : Json) :
    (h.bound key initial).Current fun k => if k = key then some h.cells.length else last k := by
  obtain ⟨hcells, hlookup⟩ := h.bound_eq key initial
  refine hh.touch ⟨key, (h.values.lookup key).getD initial⟩ ?_ hlookup ?_
  · rw [hcells, List.getElem?_concat_length]
  · intro j other hother _
    rw [hcells, List.getElem?_append_left (List.getElem?_eq_some_iff.mp hother).1, hother]

theorem written (hh : h.Current last) {i : Nat} {cell : Cell} (hcell : h.cells[i]? = some cell)
    (v : Json) :
    (h.written i v).Current fun k => if k = cell.key then some i else last k := by
  obtain ⟨hcells, hlookup⟩ := h.written_eq hcell v
  refine hh.touch ⟨cell.key, v⟩ ?_ hlookup ?_
  · rw [hcells, List.getElem?_set_self (List.getElem?_eq_some_iff.mp hcell).1]
  · intro j other hother hkey
    -- A cell of another identity is not the one that is written.
    have hij : i ≠ j := by
      rintro rfl
      have hsame : other = cell := Option.some.inj (hother.symm.trans hcell)
      exact hkey (by rw [hsame])
    rw [hcells, List.getElem?_set_ne hij, hother]

theorem call (hh : h.Current last) (c : CellCall) :
    (h.call c).Current (h.newestCall last c) := by
  rcases h.call_cases c with
    ⟨i, v, hwrite, hcall⟩ | ⟨key, initial, rfl⟩ | ⟨_, _, _, rfl, hwrite, hcall⟩
  · have htouched : h.touched c = h.cells[i]?.map fun cell => (cell.key, i) := by
      cases c with
      | bind key initial => cases hwrite
      | _ => simp only [touched, hwrite]
    rw [hcall, newestCall, htouched]
    cases hcell : h.cells[i]? with
    | none =>
      rw [h.written_missing hcell]
      exact hh
    | some cell => exact hh.written hcell v
  · exact hh.bound key initial
  · simp only [hcall, newestCall, touched, hwrite]
    exact hh

theorem run (hh : h.Current last) (calls : List CellCall) :
    (h.run calls).Current (h.newest last calls) := by
  induction calls generalizing h last with
  | nil => exact hh
  | cons c rest ih => exact ih (hh.call c)

end Current

theorem run_concat (h : Handed) (before : List CellCall) (c : CellCall) :
    h.run (before ++ [c]) = (h.run before).call c := by
  rw [run, List.foldl_append]
  rfl

theorem start_coherent : start.Coherent := by
  intro i cell hcell
  cases hcell

theorem start_current : start.Current fun _ => none where
  placed := fun _ _ h => nomatch h
  absent := fun _ _ => rfl

end Handed

/-- After any run of a memory store that is not cleared, the store has for each identity what the
cell reads that was bound or written last. All cells of an identity read that at every moment of the
run if and only if nothing is written to a cell but what the others of its identity read already. -/
theorem Handed.run_coherent_iff (calls : List CellCall) :
    let h := start.run calls
    (∀ key, h.store.get? key =
      (start.newest (fun _ => none) calls key).bind fun i => h.cells[i]?.map Cell.value) ∧
    ((∀ before, before <+: calls → (start.run before).Coherent) ↔
      ∀ before c, before ++ [c] <+: calls → (start.run before).Harmless c) := by
  intro h
  constructor
  · intro key
    have hcurrent := start_current.run calls
    cases hlast : start.newest (fun _ => none) calls key with
    | none => exact hcurrent.absent key hlast
    | some i =>
      obtain ⟨cell, hcell, -, hread⟩ := hcurrent.placed key i hlast
      rw [hread, Option.bind_some, hcell, Option.map_some]
  · constructor
    · intro hcoherent before c hprefix
      have hbefore := hcoherent before ((List.prefix_append before [c]).trans hprefix)
      have hafter := hcoherent _ hprefix
      rw [run_concat] at hafter
      exact (hbefore.call_iff c).mp hafter
    · intro hharmless before hprefix
      induction before using List.reverseRec with
      | nil => exact start_coherent
      | append_singleton before c ih =>
        have hbefore := ih ((List.prefix_append before [c]).trans hprefix)
        rw [run_concat]
        exact (hbefore.call_iff c).mpr (hharmless before c hprefix)

/-- Two checkboxes of the same identity. -/
def agreeTwice : Json :=
  .obj [("type", .str "column"), ("children", .arr [
    .obj [("type", .str "checkbox"), ("id", .str "agree")],
    .obj [("type", .str "checkbox"), ("id", .str "agree")]])]

/-- The user checks the second one, and the first one stays as it is. -/
theorem cells_apart :
    (¬ ∀ calls : List CellCall, (Handed.start.run calls).Coherent) ∧
    ¬ ∀ (images : Option (ImageSource → Report Bool)) (calls : List Session.Call) (name : String)
      (tree : Widget),
      ((Session.start (Host.standard images) (.memory []) none).history calls).trees.lookup name =
        some (some tree) →
      ∀ label label' cell cell', Widget.leaf (.checkbox label (some cell)) ∈ tree.walk →
        Widget.leaf (.checkbox label' (some cell')) ∈ tree.walk → cell.key = cell'.key →
        checkedValue (some cell) = checkedValue (some cell') := by
  constructor
  · intro h
    have hread := h [.bind "agree" (.bool false), .bind "agree" (.bool false),
      .change 1 (.checkbox none false) (.bool true)] 0 ⟨"agree", .bool false⟩ rfl
    cases hread
  · intro h
    have hsame := h none [.render "page" agreeTwice, .change "page" 2 (.bool true)] "page"
      (.group (.flex .vertical .start .center)
        [.leaf (.checkbox none (some ⟨"agree", .bool false⟩)),
          .leaf (.checkbox none (some ⟨"agree", .bool true⟩))]) rfl none none
      ⟨"agree", .bool false⟩ ⟨"agree", .bool true⟩ (.tail _ (.head _)) (.tail _ (.tail _ (.head _)))
      rfl
    cases hsame

end ServerUi
