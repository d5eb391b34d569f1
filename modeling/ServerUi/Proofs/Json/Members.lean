import Mathlib.Tactic.Common
import ServerUi.Json.Basic

/-! The members of an object: what is found under a key once a member is put there or left out. -/

namespace ServerUi

theorem mem_of_lookup {entries : List (String × α)} {key : String} {a : α}
    (h : entries.lookup key = some a) : (key, a) ∈ entries := by
  obtain ⟨before, after, rfl, _⟩ := List.lookup_eq_some_iff.mp h
  simp

theorem lookup_cons_ite (k name : String) (a : α) (rest : List (String × α)) :
    ((name, a) :: rest).lookup k = if k = name then some a else rest.lookup k := by
  by_cases h : k = name
  · simp [h]
  · simp [List.lookup_cons, h, beq_false_of_ne h]

theorem lookup_filter_ne (entries : List (String × α)) (name k : String) :
    (entries.filter (·.1 != name)).lookup k = if k = name then none else entries.lookup k := by
  induction entries with
  | nil => by_cases hk : k = name <;> simp [hk]
  | cons e rest ih =>
    obtain ⟨other, a⟩ := e
    by_cases hother : other = name
    · subst hother
      have hdropped : (((other, a) :: rest).filter (·.1 != other)) = rest.filter (·.1 != other) :=
        List.filter_cons_of_neg (by simp)
      rw [hdropped, ih, lookup_cons_ite]
      by_cases hk : k = other <;> simp [hk]
    · have hkept : (((other, a) :: rest).filter (·.1 != name)) =
          (other, a) :: rest.filter (·.1 != name) := List.filter_cons_of_pos (by simpa using hother)
      rw [hkept, lookup_cons_ite, lookup_cons_ite, ih]
      by_cases hk : k = other
      · subst hk
        simp [hother]
      · simp [hk]

namespace Config

theorem lookup_put (config : Config) (key : String) (v : Json) (k : String) :
    (config.put key v).lookup k = if k = key then some v else config.lookup k := by
  induction config with
  | nil => exact lookup_cons_ite k key v []
  | cons m rest ih =>
    obtain ⟨name, u⟩ := m
    by_cases hname : name = key
    · subst hname
      by_cases h : k = name <;> simp [put, lookup_cons_ite, h]
    · by_cases h : k = name
      · subst h
        simp [put, hname]
      · simp [put, hname, lookup_cons_ite, h, ih]

theorem get_put (config : Config) (key : String) (v : Json) (k : String) :
    (config.put key v).get k = if k = key then v else config.get k := by
  rw [get, lookup_put]
  split <;> rfl

theorem put_self {config : Config} {key : String} {v : Json} (h : config.lookup key = some v) :
    config.put key v = config := by
  induction config with
  | nil => cases h
  | cons m rest ih =>
    obtain ⟨name, u⟩ := m
    rw [lookup_cons_ite] at h
    rw [put]
    by_cases hname : key = name
    · rw [if_pos hname] at h
      rw [if_pos hname.symm, Option.some.inj h]
    · rw [if_neg hname] at h
      rw [if_neg (Ne.symm hname), ih h]

/-- Puts a value under a key, or leaves the key out. -/
def assign (config : Config) (key : String) : Option Json → Config
  | some v => config.put key v
  | none => config.filter (·.1 != key)

theorem get_assign (config : Config) (key : String) (o : Option Json) (k : String) :
    (config.assign key o).get k = if k = key then o.getD .null else config.get k := by
  cases o with
  | some v => exact get_put config key v k
  | none =>
    rw [assign, get, lookup_filter_ne]
    split <;> rfl

/-- The same members, one of them apart. -/
def Apart (key : String) (config other : Config) : Prop :=
  ∀ k, k ≠ key → other.get k = config.get k

theorem apart_put (config : Config) (key : String) (v : Json) :
    Apart key config (config.put key v) := by
  intro k hk
  rw [get_put, if_neg hk]

theorem apart_assign (config : Config) (key : String) (o : Option Json) :
    Apart key config (config.assign key o) := by
  intro k hk
  rw [get_assign, if_neg hk]

end Config

end ServerUi
