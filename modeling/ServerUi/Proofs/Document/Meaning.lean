import Mathlib.Data.List.Forall2
import Mathlib.Logic.Relation
import ServerUi.Proofs.Number.Whole
import ServerUi.Proofs.Render.Document

/-! Documents of one meaning. The order of members, a whole number in place of its double and a null
member in place of none make no difference, but in the options of a dropdown, which are shown as they
stand. -/

namespace ServerUi

namespace Config

theorem lookup_perm {config other : Config} (h : config.Perm other)
    (hkeys : (config.map Prod.fst).Nodup) (key : String) :
    config.lookup key = other.lookup key := by
  induction h with
  | nil => rfl
  | cons m _ ih =>
    obtain ⟨name, v⟩ := m
    have hrest := ih (List.nodup_cons.mp hkeys).2
    rw [lookup_cons_ite, lookup_cons_ite, hrest]
  | swap m m' rest =>
    obtain ⟨name, v⟩ := m
    obtain ⟨name', v'⟩ := m'
    have hne : name' ≠ name := fun heq => (List.nodup_cons.mp hkeys).1 (heq ▸ List.mem_cons_self)
    simp only [lookup_cons_ite]
    by_cases h : key = name
    · have h' : key ≠ name' := fun heq => hne (heq.symm.trans h)
      simp only [if_pos h, if_neg h']
    · simp only [if_neg h]
  | trans h₁ _ ih₁ ih₂ =>
    have hmiddle := (h₁.map Prod.fst).nodup_iff.mp hkeys
    exact (ih₁ hkeys).trans (ih₂ hmiddle)

theorem get_append (before after : Config) (key : String) :
    Config.get (before ++ after) key = (before.lookup key).getD (after.get key) := by
  rw [get, List.lookup_append]
  cases before.lookup key <;> rfl

theorem get_cons (name : String) (v : Json) (rest : Config) (key : String) :
    Config.get ((name, v) :: rest) key = if key = name then v else rest.get key := by
  rw [get, lookup_cons_ite]
  split <;> rfl

theorem get_of_notMem {config : Config} {key : String} (h : key ∉ config.map Prod.fst) :
    config.get key = .null := by
  have hnone : config.lookup key = none := by
    rw [List.lookup_eq_none_iff]
    intro m hm
    rw [bne_iff_ne]
    rintro rfl
    exact h (List.mem_map_of_mem hm)
  rw [get, hnone, Option.getD_none]

theorem get_null_member {before after : Config} {name : String}
    (h : name ∉ (before ++ after).map Prod.fst) (key : String) :
    Config.get (before ++ (name, .null) :: after) key = Config.get (before ++ after) key := by
  rw [get_append, get_cons]
  split
  · next hkey =>
    have hafter : Config.get after name = .null := by
      apply get_of_notMem
      intro hmem
      exact h (List.map_append ▸ List.mem_append_right _ hmem)
    rw [get_append, hkey, hafter]
  · rw [get_append]

end Config

namespace Json

/-- One change of a document that leaves its meaning: members in another order, a whole number as a
double, a null member less or more, or such a change further down, unless it is inside an array under
`options`. An object of a document has each key once. -/
inductive Change : Json → Json → Prop where
  | reorder {members others : Config} (hperm : members.Perm others)
      (hkeys : (members.map Prod.fst).Nodup) : Change (.obj members) (.obj others)
  | number {n : Int} {x : Double} (h : Double.ofInt? n = some x) : Change (.int n) (.float x)
  | drop {before after : Config} {key : String} (hkey : key ∉ (before ++ after).map Prod.fst) :
      Change (.obj (before ++ (key, .null) :: after)) (.obj (before ++ after))
  | add {before after : Config} {key : String} (hkey : key ∉ (before ++ after).map Prod.fst) :
      Change (.obj (before ++ after)) (.obj (before ++ (key, .null) :: after))
  | item {before after : List Json} {v w : Json} (h : Change v w) :
      Change (.arr (before ++ v :: after)) (.arr (before ++ w :: after))
  | member {before after : Config} {key : String} {v w : Json} (h : Change v w)
      (hkey : ∀ items, key = "options" → v ≠ .arr items) :
      Change (.obj (before ++ (key, v) :: after)) (.obj (before ++ (key, w) :: after))

/-- Two values that read the same: what differs is a whole number and its double, or lies further
down, and an array under `options` is the same. -/
inductive Alike : Json → Json → Prop where
  | refl (v : Json) : Alike v v
  | number {n : Int} {x : Double} (h : Double.ofInt? n = some x) : Alike (.int n) (.float x)
  | array {items others : List Json} (h : List.Forall₂ Alike items others) :
      Alike (.arr items) (.arr others)
  | object {members others : Config} (hget : ∀ key, Alike (members.get key) (others.get key))
      (hoptions : ∀ items, members.get "options" = .arr items →
        others.get "options" = .arr items) : Alike (.obj members) (.obj others)

end Json

/-- Members that read the same under every key. -/
structure Config.Alike (config other : Config) : Prop where
  get : ∀ key, Json.Alike (config.get key) (other.get key)
  options : ∀ items, config.get "options" = .arr items → other.get "options" = .arr items

namespace Json

theorem alike_of_get_eq {members others : Config} (h : ∀ key, members.get key = others.get key) :
    Alike (.obj members) (.obj others) :=
  .object (fun key => h key ▸ .refl _) fun _ hitems => h "options" ▸ hitems

/-- Only one place is changed, and there the values are alike. -/
theorem Change.alike {v w : Json} (h : Change v w) : Alike v w := by
  induction h with
  | reorder hperm hkeys =>
    apply alike_of_get_eq
    intro key
    rw [Config.get, Config.get, Config.lookup_perm hperm hkeys]
  | number h => exact .number h
  | drop hkey => exact alike_of_get_eq (Config.get_null_member hkey)
  | add hkey => exact alike_of_get_eq fun key => (Config.get_null_member hkey key).symm
  | @item before after v w h ih =>
    have hsame : ∀ items : List Json, List.Forall₂ Alike items items := fun items =>
      List.forall₂_same.mpr fun u _ => .refl u
    exact .array (List.rel_append (hsame before) (.cons ih (hsame after)))
  | @member before after name v w h hkey ih =>
    refine .object (fun key => ?_) fun items hitems => ?_
    · rw [Config.get_append, Config.get_append, Config.get_cons, Config.get_cons]
      cases before.lookup key with
      | some u => exact .refl u
      | none =>
        split
        · exact ih
        · exact .refl _
    · rw [Config.get_append, Config.get_cons] at hitems ⊢
      cases hbefore : before.lookup "options" with
      | some u =>
        rw [hbefore] at hitems
        exact hitems
      | none =>
        rw [hbefore] at hitems
        split at hitems
        · next hname => exact absurd hitems (hkey items hname.symm)
        · next hname => rwa [if_neg hname]

namespace Alike

variable {v w : Json}

theorem typeName_eq (h : Alike v w) : v.typeName = w.typeName := by
  cases h <;> rfl

theorem isObject_eq (h : Alike v w) : v.isObject = w.isObject := by
  cases h <;> rfl

theorem items (h : Alike v w) : List.Forall₂ Alike v.items w.items := by
  cases h with
  | refl v => exact List.forall₂_same.mpr fun u _ => .refl u
  | array h => exact h
  | number h => exact .nil
  | object hget hoptions => exact .nil

theorem exists_object {config : Config} (h : Alike (.obj config) w) :
    ∃ other, w = .obj other ∧ config.Alike other := by
  cases h with
  | refl => exact ⟨config, rfl, fun key => .refl _, fun _ h => h⟩
  | object hget hoptions => exact ⟨_, rfl, hget, hoptions⟩

end Alike

end Json

theorem Config.Alike.name?_eq {config other : Config} (h : config.Alike other) (key : String) :
    config.name? key = other.name? key := by
  have hkey := h.get key
  unfold name?
  generalize config.get key = v at hkey ⊢
  generalize other.get key = w at hkey ⊢
  cases hkey <;> rfl

end ServerUi
