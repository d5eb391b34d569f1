import Mathlib.Tactic.Common
import ServerUi.Json.Basic

/-! The doubles of a value, wherever in it they stand. -/

namespace ServerUi

inductive Double.IsFinite : Double → Prop where
  | finite (negative : Bool) {units : Nat} (short : Short units) (small : units < unitsLimit) :
    IsFinite (.finite negative units short small)

namespace Json

/-- A value stands somewhere in another one. -/
inductive Occurs (u : Json) : Json → Prop where
  | self : Occurs u u
  | item {items : List Json} {v : Json} (hv : v ∈ items) (h : Occurs u v) : Occurs u (.arr items)
  | member {members : Config} {m : String × Json} (hm : m ∈ members) (h : Occurs u m.2) :
      Occurs u (.obj members)

def Doubles (P : Double → Prop) (v : Json) : Prop := ∀ x, Occurs (.float x) v → P x

section Doubles

variable {P : Double → Prop}

theorem doubles_null : Doubles P .null := by
  intro x hx
  cases hx

theorem Doubles.float {x : Double} (h : Doubles P (.float x)) : P x := h x .self

theorem Doubles.arr {items : List Json} (h : Doubles P (.arr items)) : ∀ v ∈ items, v.Doubles P :=
  fun _ hv x hx => h x (.item hv hx)

theorem Doubles.get {config : Config} (h : Doubles P (.obj config)) (key : String) :
    (config.get key).Doubles P := by
  cases hv : config.lookup key with
  | none =>
    rw [Config.get, hv]
    exact doubles_null
  | some v =>
    obtain ⟨before, after, hconfig, -⟩ := List.lookup_eq_some_iff.mp hv
    have hmem : (key, v) ∈ config := by
      rw [hconfig]
      exact List.mem_append_right _ List.mem_cons_self
    rw [Config.get, hv]
    exact fun x hx => h x (.member hmem hx)

end Doubles

mutual

/-- There is a number in the value that is none. -/
def hasNan : Json → Bool
  | float .nan => true
  | arr items => itemsHaveNan items
  | obj members => membersHaveNan members
  | _ => false

def itemsHaveNan : List Json → Bool
  | [] => false
  | v :: rest => hasNan v || itemsHaveNan rest

def membersHaveNan : List (String × Json) → Bool
  | [] => false
  | (_, v) :: rest => hasNan v || membersHaveNan rest

end

theorem hasNan_of_item {items : List Json} {v : Json} (hv : v ∈ items) (h : v.hasNan = true) :
    (arr items).hasNan = true := by
  change itemsHaveNan items = true
  induction items with
  | nil => cases hv
  | cons u rest ih =>
    rw [itemsHaveNan, Bool.or_eq_true]
    rcases List.mem_cons.mp hv with rfl | hv
    · exact .inl h
    · exact .inr (ih hv)

theorem hasNan_of_member {members : Config} {m : String × Json} (hm : m ∈ members)
    (h : m.2.hasNan = true) : (obj members).hasNan = true := by
  change membersHaveNan members = true
  induction members with
  | nil => cases hm
  | cons n rest ih =>
    rw [membersHaveNan, Bool.or_eq_true]
    rcases List.mem_cons.mp hm with rfl | hm
    · exact .inl h
    · exact .inr (ih hm)

theorem hasNan_of_occurs {v : Json} (h : Occurs (.float .nan) v) : v.hasNan = true := by
  induction h with
  | self => rfl
  | item hv _ ih => exact hasNan_of_item hv ih
  | member hm _ ih => exact hasNan_of_member hm ih

theorem doubles_of_hasNan {v : Json} (h : v.hasNan = false) : v.Doubles fun x => x ≠ .nan := by
  rintro _ hx rfl
  cases h.symm.trans (hasNan_of_occurs hx)

end Json

end ServerUi
