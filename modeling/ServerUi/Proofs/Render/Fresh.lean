import ServerUi.Proofs.Render.Document
import ServerUi.Proofs.Widget.Walk

/-! What is rendered with a store that keeps nothing: every node is rendered by itself, and where it
is rendered shows in nothing but the identities that its interactive widgets are given. -/

namespace ServerUi

/-- What a value comes to in a slot of a node; only an object is rendered there. -/
def Host.slotted (host : Host) (path : Path) (v : Json) : Option Widget :=
  if v.isObject then (host.render v path .ephemeral).value else none

def Host.row (host : Host) (path : Path) : Nat → List Json → List Widget
  | _, [] => []
  | i, v :: rest => (host.slotted (path ++ [toString i]) v).toList ++ host.row path (i + 1) rest

section Slots

variable (host : Host)

theorem renderChild_fresh (v : Json) (path : Path) :
    (host.renderChild v path .ephemeral).value = host.slotted (path ++ ["child"]) v := by
  cases v <;> rfl

theorem renderItems_fresh (items : List Json) (i : Nat) (path : Path) :
    (host.renderItems i items path .ephemeral).value = host.row path i items := by
  induction items generalizing i with
  | nil => rfl
  | cons v rest ih =>
    rw [Host.row, Host.slotted]
    cases hv : v.isObject with
    | true =>
      have hstore := (host.render_steady v).store_eq (path ++ [toString i])
      rw [host.renderItems_object hv, hstore, ← ih]
      rfl
    | false =>
      rw [host.renderItems_skipped hv, ← ih]
      rfl

theorem row_append (path : Path) (xs ys : List Json) (i : Nat) :
    host.row path i (xs ++ ys) = host.row path i xs ++ host.row path (i + xs.length) ys := by
  induction xs generalizing i with
  | nil => rfl
  | cons x xs ih =>
    rw [List.cons_append, Host.row, ih, Host.row, List.append_assoc, List.length_cons]
    congr 3
    omega

theorem row_set (path : Path) {items : List Json} {i : Nat} (h : i < items.length) (v : Json) :
    host.row path 0 (items.set i v) =
      host.row path 0 (items.take i) ++ (host.slotted (path ++ [toString i]) v).toList ++
        host.row path (i + 1) (items.drop (i + 1)) := by
  have hlength : (items.take i).length = i := by
    rw [List.length_take]
    omega
  rw [List.set_eq_take_append_cons_drop, if_pos h, row_append, hlength, Nat.zero_add, Host.row,
    List.append_assoc]

end Slots

section Standard

variable {images : Option (ImageSource → Report Bool)} {config : Config}

theorem held_fresh (key : String) : Store.ephemeral.held key = Seed.initial := by
  funext seed
  rfl

theorem render_fresh {tag : String} {form : Form} (htag : config.name? "type" = some tag)
    (hform : Form.ofTag? images tag config = some form) (path : Path) :
    ((Host.standard images).render (.obj config) path .ephemeral).value =
      inPlace ((Option.map (Content.widget (identity config (path ++ [tag])) Seed.initial
        ((Host.standard images).slotted (path ++ [tag] ++ ["child"]) (config.get "child"))
        ((Host.standard images).row (path ++ [tag]) 0 (config.get "children").items)))
        <$> form.content) := by
  rw [render_value htag hform, renderChild_fresh, renderItems_fresh, held_fresh]

end Standard

section Placed

theorem unnamed_leaf (seed : Seed) (key : String) (v : Json) :
    (seed.leaf ⟨key, v⟩).unnamed = (seed.leaf ⟨"", v⟩).unnamed := by
  cases seed <;> rfl

theorem unnamed_content (c : Content) (key key' : String) (value : Seed → Json)
    {child other : Option Widget} {items others : List Widget}
    (hchild : child.map Widget.unnamed = other.map Widget.unnamed)
    (hitems : items.map Widget.unnamed = others.map Widget.unnamed) :
    (c.widget key value child items).unnamed = (c.widget key' value other others).unnamed := by
  simp only [funext Widget.unnamed_eq] at hchild hitems ⊢
  refine mapLeaves_content hchild c (fun _ _ => rfl) (fun seed => ?_) hitems
  rw [unnamed_leaf, unnamed_leaf seed key']

variable {images : Option (ImageSource → Report Bool)}

/-- A value is the same wherever it is rendered, the identities apart. -/
def Placeless (host : Host) (v : Json) : Prop :=
  ∀ path path', (host.render v path .ephemeral).value.map Widget.unnamed =
    (host.render v path' .ephemeral).value.map Widget.unnamed

theorem slotted_unnamed {host : Host} {v : Json} (h : Placeless host v) (path path' : Path) :
    (host.slotted path v).map Widget.unnamed = (host.slotted path' v).map Widget.unnamed := by
  rw [Host.slotted, Host.slotted]
  split
  · exact h path path'
  · rfl

theorem row_unnamed {host : Host} {items : List Json} (h : ∀ v ∈ items, Placeless host v)
    (path path' : Path) (i : Nat) :
    (host.row path i items).map Widget.unnamed = (host.row path' i items).map Widget.unnamed := by
  induction items generalizing i with
  | nil => rfl
  | cons v rest ih =>
    have hv := slotted_unnamed (h v List.mem_cons_self) (path ++ [toString i])
      (path' ++ [toString i])
    have hrest := ih (fun u hu => h u (List.mem_cons_of_mem v hu)) (i + 1)
    simp only [Host.row, List.map_append, hrest, ← Option.toList_map, hv]

theorem placeless (v : Json) : Placeless (Host.standard images) v := by
  induction v using form_induction images with
  | refused v e h =>
    intro path path'
    rw [render_refused h]
    rfl
  | node config tag form htag hform hget hitem =>
    intro path path'
    rw [render_fresh htag hform, render_fresh htag hform]
    exact map_inPlace_congr (fun c => unnamed_content c _ _ _ (slotted_unnamed hget _ _)
      (row_unnamed hitem _ _ _)) form.content

end Placed

end ServerUi
