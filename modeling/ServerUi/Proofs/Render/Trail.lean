import ServerUi.Proofs.Render.Replacement

/-! Where a node stands in a document. Its trail spells out the types and the steps on the way to it,
so it tells its position, also written as one text with slashes. A value that is replaced elsewhere
leaves the trail and the node as they are. -/

namespace ServerUi

/-- Slashes between parts without slashes can be told from the parts. -/
theorem intercalate_slash_injective {l m : List String} (hl : ∀ s ∈ l, '/' ∉ s.toList)
    (hm : ∀ s ∈ m, '/' ∉ s.toList) (hlne : l ≠ []) (hmne : m ≠ [])
    (h : "/".intercalate l = "/".intercalate m) : l = m := by
  have hsplit {k : List String} (hk : ∀ s ∈ k, '/' ∉ s.toList) (hne : k ≠ []) :
      ("/".intercalate k).toList.splitOn '/' = k.map String.toList := by
    have hparts : ∀ cs ∈ k.map String.toList, '/' ∉ cs := by
      intro cs hcs
      obtain ⟨s, hs, rfl⟩ := List.mem_map.mp hcs
      exact hk s hs
    have hmap : k.map String.toList ≠ [] := by
      simpa only [ne_eq, List.map_eq_nil_iff] using hne
    rw [String.toList_intercalate]
    exact List.splitOn_intercalate '/' hparts hmap
  have hlists : l.map String.toList = m.map String.toList := by
    rw [← hsplit hl hlne, ← hsplit hm hmne, h]
  exact (List.map_inj_right fun _ _ => String.toList_inj.mp).mp hlists

theorem toString_toList (i : Nat) : (toString i).toList = Nat.toDigits 10 i := Nat.toList_repr

theorem slash_notMem_toString (i : Nat) : '/' ∉ (toString i).toList := by
  intro h
  rw [toString_toList] at h
  have hdigit := Nat.isDigit_of_mem_toDigits (by decide) (by decide) h
  exact absurd hdigit (by decide)

theorem toString_injective {i j : Nat} (h : toString i = toString j) : i = j := by
  have hdigits : Nat.toDigits 10 i = Nat.toDigits 10 j := by
    rw [← toString_toList, ← toString_toList, h]
  have hvalues := congrArg (fun ds => Nat.ofDigitChars 10 ds 0) hdigits
  simpa only [Nat.ofDigitChars_ten_toDigits] using hvalues

theorem Slot.segment_injective {slot other : Slot} (h : slot.segment = other.segment) :
    slot = other := by
  have hword (i : Nat) : toString i ≠ "child" := by
    intro hi
    have hdigit : 'c' ∈ Nat.toDigits 10 i := by
      rw [← toString_toList, hi]
      decide
    exact absurd (Nat.isDigit_of_mem_toDigits (by decide) (by decide) hdigit) (by decide)
  cases slot with
  | child =>
    cases other with
    | child => rfl
    | item j => exact absurd h.symm (hword j)
  | item i =>
    cases other with
    | child => exact absurd h (hword i)
    | item j => exact congrArg Slot.item (toString_injective h)

/-- What stands in a slot, null if nothing does. -/
def Slot.value (slot : Slot) (config : Config) : Json := (slot.get? config).getD .null

namespace Json

def nodeAt (v : Json) (p : List Slot) : Json := (v.at? p).getD .null

/-- The types and steps from a value down to a position, the type there last. -/
def trail : Json → List Slot → Path
  | v, [] => [v.config.tag]
  | v, slot :: rest => v.config.tag :: slot.segment :: (slot.value v.config).trail rest

theorem nodeAt_cons (v : Json) (slot : Slot) (rest : List Slot) :
    v.nodeAt (slot :: rest) = (slot.value v.config).nodeAt rest := by
  rw [nodeAt, at?, Slot.value, nodeAt]
  cases h : slot.get? v.config with
  | some u => rfl
  | none =>
    cases rest with
    | nil => rfl
    | cons next rest => cases next <;> rfl

theorem trail_ne_nil (v : Json) (p : List Slot) : v.trail p ≠ [] := by
  cases p <;> simp [trail]

/-- A trail tells its position, whatever the types on the way are. -/
theorem trail_injective {v : Json} {p q : List Slot} (h : v.trail p = v.trail q) : p = q := by
  induction p generalizing v q with
  | nil =>
    cases q with
    | nil => rfl
    | cons slot rest => simp [trail] at h
  | cons slot rest ih =>
    cases q with
    | nil => simp [trail] at h
    | cons other more =>
      simp only [trail, List.cons.injEq, true_and] at h
      have hslot : slot = other := Slot.segment_injective h.1
      subst hslot
      have hrest : rest = more := ih h.2
      rw [hrest]

theorem trail_congr {v other : Json} {p : List Slot}
    (h : ∀ q, q <+: p → (v.nodeAt q).config.tag = (other.nodeAt q).config.tag) :
    v.trail p = other.trail p := by
  induction p generalizing v other with
  | nil =>
    have htag := h [] (List.prefix_refl [])
    exact congrArg (· :: []) htag
  | cons slot rest ih =>
    have htag : v.config.tag = other.config.tag := h [] List.nil_prefix
    have hbelow : (slot.value v.config).trail rest = (slot.value other.config).trail rest := by
      apply ih
      intro q hq
      have hq' := h (slot :: q) ((List.prefix_cons_inj slot).mpr hq)
      rwa [nodeAt_cons, nodeAt_cons] at hq'
    rw [trail, trail, htag, hbelow]

end Json

namespace Slot

variable {slot other : Slot} {config : Config} {u : Json}

theorem value_of_get? (h : slot.get? config = some u) : slot.value config = u := by
  rw [value, h, Option.getD_some]

theorem value_set_self (h : slot.get? config = some u) (v : Json) :
    slot.value (slot.set v config) = v := by
  cases slot with
  | child =>
    have hget : (config.put "child" v).get "child" = v := by rw [Config.get_put, if_pos rfl]
    exact hget
  | item i =>
    obtain ⟨items, -, hget, hitem⟩ := exists_items h
    have hi : i < items.length := (List.getElem?_eq_some_iff.mp hitem).1
    rw [value, get?, set, Config.get_put, if_pos rfl, hget, Json.items, Json.items,
      List.getElem?_set_self hi, Option.getD_some]

theorem value_set_of_ne (h : slot.get? config = some u) (v : Json) (hne : slot ≠ other) :
    other.value (slot.set v config) = other.value config := by
  cases slot with
  | child =>
    cases other with
    | child => exact absurd rfl hne
    | item j => rw [value, get?, set, Config.get_put, if_neg (by decide), value, get?]
  | item i =>
    obtain ⟨items, -, hget, -⟩ := exists_items h
    cases other with
    | child =>
      have hchild : ((item i).set v config).get "child" = config.get "child" := by
        rw [set, Config.get_put, if_neg (by decide)]
      exact hchild
    | item j =>
      have hij : i ≠ j := fun hij => hne (congrArg item hij)
      rw [value, get?, set, Config.get_put, if_pos rfl, value, get?, hget, Json.items, Json.items,
        List.getElem?_set_ne hij]

end Slot

theorem Config.Agree.refl (config : Config) : config.Agree config := ⟨fun _ _ _ => rfl, .inl rfl⟩

theorem Config.Agree.tag_eq {config other : Config} (h : config.Agree other) :
    config.tag = other.tag := by
  rw [Config.tag, Config.tag, h.name?_eq (by decide) (by decide)]

namespace Json

theorem exists_config_of_get? {v : Json} {slot : Slot} {u : Json}
    (h : slot.get? v.config = some u) : ∃ config, v = .obj config ∧ slot.get? config = some u := by
  cases v with
  | obj config => exact ⟨config, rfl, h⟩
  | _ => cases slot <;> cases h

theorem replace_of_get?_none {v : Json} {slot : Slot} (h : slot.get? v.config = none)
    (rest : List Slot) (n : Json) : v.replace (slot :: rest) n = v := by
  rw [replace, h, Option.elim_none]

/-- A node keeps its own fields when a value is replaced that it does not stand in. -/
theorem nodeAt_replace_agree {v : Json} {p r : List Slot} (n : Json) (h : ¬ r <+: p) :
    ((v.replace r n).nodeAt p).config.Agree (v.nodeAt p).config := by
  induction r generalizing v p with
  | nil => exact absurd List.nil_prefix h
  | cons slot rest ih =>
    cases hu : slot.get? v.config with
    | none =>
      rw [replace_of_get?_none hu]
      exact .refl _
    | some u =>
      obtain ⟨config, rfl, hget⟩ := exists_config_of_get? hu
      rw [replace_cons hget]
      cases p with
      | nil => exact Slot.set_agree hget _
      | cons other more =>
        rw [nodeAt_cons, nodeAt_cons]
        by_cases hslot : slot = other
        · subst hslot
          have hmore : ¬ rest <+: more := fun hpre => h ((List.prefix_cons_inj slot).mpr hpre)
          rw [Json.config, Json.config, Slot.value_set_self hget, Slot.value_of_get? hget]
          exact ih hmore
        · rw [Json.config, Json.config, Slot.value_set_of_ne hget _ hslot]
          exact .refl _

/-- The identity of the node at a position of a document. -/
def key (v : Json) (p : List Slot) : String := identity (v.nodeAt p).config (v.trail p)

/-- The `id` of the node at a position, if it has one. -/
def id? (v : Json) (p : List Slot) : Option String := (v.nodeAt p).config.name? "id"

/-- The path of the node at a position, as one text. -/
def pathText (v : Json) (p : List Slot) : String := "/".intercalate (v.trail p)

theorem key_eq (v : Json) (p : List Slot) : v.key p = (v.id? p).getD (v.pathText p) := rfl

/-- An identity hangs on the node's `id` and on the types on the way, and on nothing else. -/
theorem key_congr {v other : Json} {p : List Slot}
    (htags : ∀ q, q <+: p → (v.nodeAt q).config.tag = (other.nodeAt q).config.tag)
    (hid : v.id? p = other.id? p) : v.key p = other.key p := by
  rw [key_eq, key_eq, hid, pathText, pathText, trail_congr htags]

theorem key_replace (v : Json) {p r : List Slot} (n : Json) (h : ¬ r <+: p) :
    (v.replace r n).key p = v.key p := by
  apply key_congr
  · intro q hq
    exact (nodeAt_replace_agree n fun hr => h (hr.trans hq)).tag_eq
  · exact (nodeAt_replace_agree n h).name?_eq (by decide) (by decide)

/-- Two identities are the same by an `id` that both have, or by one that is the path of the other,
unless the paths are the same. -/
theorem key_eq_cases {v : Json} {p q : List Slot} (h : v.key p = v.key q)
    (hne : v.pathText p ≠ v.pathText q) :
    (∃ name, v.id? p = some name ∧ v.id? q = some name) ∨ v.id? p = some (v.pathText q) ∨
      v.id? q = some (v.pathText p) := by
  rw [key_eq, key_eq] at h
  cases hp : v.id? p with
  | none =>
    cases hq : v.id? q with
    | none =>
      rw [hp, hq] at h
      exact absurd h hne
    | some name =>
      rw [hp, hq] at h
      exact .inr (.inr (congrArg some h.symm))
  | some name =>
    cases hq : v.id? q with
    | none =>
      rw [hp, hq] at h
      exact .inr (.inl (congrArg some h))
    | some other =>
      rw [hp, hq] at h
      exact .inl ⟨name, rfl, congrArg some h.symm⟩

end Json

end ServerUi
