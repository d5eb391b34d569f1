import Mathlib.Logic.Relation
import ServerUi.Proofs.Render.Document

/-! Which values are rendered on behalf of a document, whatever builders there are. What a builder
has rendered can hang on what it was answered before, so its program is followed through a run. -/

namespace ServerUi

/-- The part of a value that stands at a place. -/
def Json.part? : Json → Place → Option Json
  | v, [] => some v
  | v, .member key :: rest => (v.config.lookup key).bind fun u => u.part? rest
  | v, .item i :: rest => v.items[i]?.bind fun u => u.part? rest

theorem Json.sizeOf_part? {v u : Json} {place : Place} (h : v.part? place = some u) :
    sizeOf u ≤ sizeOf v ∧ (place ≠ [] → sizeOf u < sizeOf v) := by
  induction place generalizing v with
  | nil =>
    cases h
    exact ⟨Nat.le_refl _, fun hne => absurd rfl hne⟩
  | cons hop rest ih =>
    have hbelow : ∃ w : Json, sizeOf w < sizeOf v ∧ w.part? rest = some u := by
      cases hop with
      | member key =>
        obtain ⟨w, hw, hu⟩ := Option.bind_eq_some_iff.mp h
        have hget : v.config.get key = w := by rw [Config.get, hw, Option.getD_some]
        refine ⟨w, ?_, hu⟩
        cases v with
        | obj config => exact hget ▸ sizeOf_get_lt config key
        | _ => cases hw
      | item i =>
        obtain ⟨w, hw, hu⟩ := Option.bind_eq_some_iff.mp h
        exact ⟨w, sizeOf_item_lt (List.mem_of_getElem? hw), hu⟩
    obtain ⟨w, hlt, hu⟩ := hbelow
    have hle := (ih hu).1
    exact ⟨by omega, fun _ => by omega⟩

section Parts

variable (host : Host)

theorem parted_members (v : Json) (key : String) :
    (parted host v).members.lookup key = (v.config.lookup key).map (parted host) := by
  cases v with
  | obj config => exact lookup_partedMembers host config key
  | _ => rfl

theorem parted_at? (v : Json) (place : Place) :
    (parted host v).at? place = (v.part? place).map (parted host) := by
  induction place generalizing v with
  | nil => rfl
  | cons hop rest ih =>
    cases hop with
    | member key =>
      simp only [Part.at?, Json.part?, parted_members]
      cases v.config.lookup key with
      | none => rfl
      | some u => exact ih u
    | item i =>
      simp only [Part.at?, Json.part?, parted_items, List.getElem?_map]
      cases v.items[i]? with
      | none => rfl
      | some u => exact ih u

/-- Every part of a node but the node itself is rendered as a value of its own. -/
theorem nodePart_at? (config : Config) {place : Place} (h : place ≠ []) :
    (host.nodePart config).at? place = ((Json.obj config).part? place).map (parted host) := by
  cases place with
  | nil => exact absurd rfl h
  | cons hop rest =>
    have hsame : (host.nodePart config).at? (hop :: rest) =
        (parted host (.obj config)).at? (hop :: rest) := by
      cases hop <;> rfl
    rw [hsame, parted_at?]

theorem parted_value (v : Json) : (parted host v).value = v := by
  cases v <;> simp only [parted, Part.value]

theorem nodePart_config (config : Config) (place : Place) :
    ((host.nodePart config).at? place).map (fun p => p.value.config) =
      ((Json.obj config).part? place).map Json.config := by
  by_cases hplace : place = []
  · subst hplace
    simp only [Part.at?, Json.part?, Option.map_some, Host.nodePart, Part.value]
  · simp only [nodePart_at? host config hplace, Option.map_map, Function.comp_def, parted_value]

theorem nodePart_members (config : Config) :
    (host.nodePart config).members = (parted host (.obj config)).members := by
  simp only [Host.nodePart, parted, Part.members]

theorem renderMember_node (config : Config) (field : String) :
    renderMember (host.nodePart config) field = renderMember (parted host (.obj config)) field := by
  rw [renderMember, renderMember, nodePart_members]

end Parts

/-- A value that is rendered, and what it starts from. -/
structure Visit where
  value : Json
  path : Path
  store : Store

/-- The objects among items, each with the store behind those in front of it. -/
def Host.itemVisits (host : Host) (path : Path) : Nat → List Json → Store → List Visit
  | _, [], _ => []
  | i, v :: rest, s =>
    if v.isObject then
      ⟨v, path ++ [toString i], s⟩ ::
        host.itemVisits path (i + 1) rest (host.render v (path ++ [toString i]) s).store
    else host.itemVisits path (i + 1) rest s

def memberVisits (v : Json) (field : String) (path : Path) (s : Store) : List Visit :=
  if (v.config.get field).isObject then [⟨v.config.get field, path ++ [field], s⟩] else []

/-- What a program has rendered as it is run for a node, in order. -/
def Build.visits (host : Host) (config : Config) : Build α → Path → Store → List Visit
  | done _, _, _ => []
  | fail _, _, _ => []
  | note _ next, path, s => next.visits host config path s
  | key place next, path, s =>
    let part := (host.nodePart config).at? place
    (next (identity ((part.map (·.value.config)).getD []) path)).visits host config path s
  | node place next, path, s =>
    let part := (host.nodePart config).at? place
    let o := part.elim renderMissing Part.render path s
    (if place = [] then [] else ((Json.obj config).part? place).toList.map (⟨·, path, s⟩)) ++
      (next o.value).visits host config o.path o.store
  | children place next, path, s =>
    let part := (host.nodePart config).at? place
    let o := renderItems 0 (part.elim [] Part.items) path s
    host.itemVisits path 0 (((Json.obj config).part? place).elim [] Json.items) s ++
      (next o.value).visits host config o.path o.store
  | child place field next, path, s =>
    let part := (host.nodePart config).at? place
    let o := part.elim (pure none) (renderMember · field) path s
    (((Json.obj config).part? place).elim [] fun v => memberVisits v field path s) ++
      (next o.value).visits host config o.path o.store
  | bind k v next, path, s =>
    let o := Pass.bindCell k v path s
    (next o.value).visits host config o.path o.store
  | write cell v next, path, s =>
    let o := Pass.writeCell cell v path s
    (next o.value).visits host config o.path o.store
  | loads source next, path, s =>
    match (askLoader host.images source path s).value with
    | .ok b => (next b).visits host config path s
    | .error _ => []

/-- The builder of a node has a value rendered. -/
def Host.Asks (host : Host) (u w : Visit) : Prop :=
  ∃ (config : Config) (tag : String) (b : Builder), u.value = .obj config ∧
    config.name? "type" = some tag ∧ host.registry.lookup tag = some b ∧
    w ∈ (b config).visits host config (u.path ++ [tag]) u.store

/-- A value is rendered on behalf of another one, or it is that one. -/
abbrev Host.Visits (host : Host) : Visit → Visit → Prop := Relation.ReflTransGen host.Asks

theorem itemVisits_mem (host : Host) {items : List Json} {i : Nat} {path : Path} {s : Store}
    {u : Visit} (h : u ∈ host.itemVisits path i items s) : u.value ∈ items := by
  induction items generalizing i s with
  | nil => cases h
  | cons v rest ih =>
    rw [Host.itemVisits] at h
    by_cases hv : v.isObject = true
    · rw [if_pos hv] at h
      rcases List.mem_cons.mp h with rfl | h
      · exact List.mem_cons_self
      · exact List.mem_cons_of_mem v (ih h)
    · rw [if_neg hv] at h
      exact List.mem_cons_of_mem v (ih h)

theorem memberVisits_lt {v : Json} {field : String} {path : Path} {s : Store} {u : Visit}
    (h : u ∈ memberVisits v field path s) : sizeOf u.value < sizeOf v := by
  rw [memberVisits] at h
  by_cases hobject : (v.config.get field).isObject = true
  · rw [if_pos hobject, List.mem_singleton] at h
    subst h
    cases v with
    | obj config => exact Json.sizeOf_get_lt config field
    | _ => cases hobject
  · rw [if_neg hobject] at h
    cases h

/-- What a builder has rendered is a proper part of its node. -/
theorem sizeOf_visits (host : Host) {config : Config} (b : Build α) {path : Path} {s : Store}
    {u : Visit} (h : u ∈ b.visits host config path s) :
    sizeOf u.value < sizeOf (Json.obj config) := by
  induction b generalizing path s with
  | done a => cases h
  | fail fault => cases h
  | note n next ih => exact ih h
  | key place next ih => exact ih _ h
  | node place next ih =>
    rcases List.mem_append.mp h with hu | h
    · by_cases hplace : place = []
      · rw [if_pos hplace] at hu
        cases hu
      · rw [if_neg hplace] at hu
        obtain ⟨v, hv, rfl⟩ := List.mem_map.mp hu
        exact (Json.sizeOf_part? (Option.mem_toList.mp hv)).2 hplace
    · exact ih _ h
  | children place next ih =>
    rcases List.mem_append.mp h with hu | h
    · cases hv : (Json.obj config).part? place with
      | none =>
        rw [hv] at hu
        cases hu
      | some v =>
        rw [hv] at hu
        have hle := (Json.sizeOf_part? hv).1
        have hlt := Json.sizeOf_item_lt (itemVisits_mem host hu)
        omega
    · exact ih _ h
  | child place field next ih =>
    rcases List.mem_append.mp h with hu | h
    · cases hv : (Json.obj config).part? place with
      | none =>
        rw [hv] at hu
        cases hu
      | some v =>
        rw [hv] at hu
        have hle := (Json.sizeOf_part? hv).1
        have hlt := memberVisits_lt hu
        omega
    · exact ih _ h
  | bind k v next ih => exact ih _ h
  | write cell v next ih => exact ih _ h
  | loads source next ih =>
    rw [Build.visits] at h
    split at h
    · exact ih _ h
    · cases h

/-- A quiet builder has nothing rendered. -/
theorem Build.Quiet.visits_eq {host : Host} {config : Config} {b : Build α} (h : b.Quiet)
    (path : Path) (s : Store) : b.visits host config path s = [] := by
  induction h with
  | done a => rfl
  | fail fault => rfl
  | note n _ ih => exact ih
  | loads source _ ih =>
    rw [visits]
    split
    · exact ih _
    · rfl

end ServerUi
