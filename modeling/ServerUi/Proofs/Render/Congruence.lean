import ServerUi.Proofs.Builder.Alike
import ServerUi.Proofs.Render.Identity
import ServerUi.Proofs.Widget.Values

/-! Documents of one meaning are rendered alike: the same dump, the same errors and the same
identities of nodes. -/

namespace ServerUi

/-- Outcomes with the same view of their values, the same store and the same nodes built. -/
structure Outcome.Alike (f : α → β) (o o' : Outcome α) : Prop where
  value : f o.value = f o'.value
  store : o.store = o'.store
  built : o.events.filterMap Event.built? = o'.events.filterMap Event.built?

theorem passive_content {c c' : Content} (h : c.Alike c') (key : String) (value : Seed → Json)
    {child other : Option Widget} {items others : List Widget} (hchild : SamePassive child other)
    (hitems : items.map Widget.passive = others.map Widget.passive) :
    (c.widget key value child items).passive = (c'.widget key value other others).passive := by
  cases h with
  | refl c => exact mapLeaves_content hchild c (fun _ _ => rfl) (fun _ => rfl) hitems
  | still h => exact h

theorem passive_inPlace {content content' : Except Fault (Option Content)}
    (h : Told (Option.Rel Content.Alike) content content') {g g' : Content → Widget}
    (hg : ∀ c c', c.Alike c' → (g c).passive = (g' c').passive) :
    SamePassive (inPlace (Option.map g <$> content)) (inPlace (Option.map g' <$> content')) := by
  cases h with
  | ok h =>
    cases h with
    | none => rfl
    | some h => exact congrArg some (hg _ _ h)
  | error h => exact congrArg (fun details => some (Widget.error s!"parse error: {details}")) h

/-- What is refused is refused with the same message. -/
theorem Refused.alike {images : Option (ImageSource → Report Bool)} {v w : Json} {e : NodeError}
    (hv : Refused images v e) (h : v.Alike w) :
    ∃ e', Refused images w e' ∧ e.message = e'.message := by
  cases hv with
  | plain hplain =>
    have hw := h.isObject_eq.symm.trans hplain
    have hmessage := congrArg
      (fun type => s!"malformed node config: expected object, got {type}") h.typeName_eq
    exact ⟨.malformed w, .plain hw, hmessage⟩
  | untyped htag =>
    obtain ⟨other, rfl, hother⟩ := h.exists_object
    rw [hother.name?_eq] at htag
    exact ⟨.missingType, .untyped htag, rfl⟩
  | unknown htag hform =>
    obtain ⟨other, rfl, hother⟩ := h.exists_object
    rw [hother.name?_eq] at htag
    have hnone := ofTag?_eq_none images (lookup_of_ofTag?_none hform) other
    exact ⟨.unknownType _, .unknown htag hnone, rfl⟩

section Congruent

variable {images : Option (ImageSource → Report Bool)}

/-- Rendered alike, wherever and with whatever store. -/
def Congruent (images : Option (ImageSource → Report Bool)) (v w : Json) : Prop :=
  ∀ path s, Outcome.Alike (Option.map Widget.passive) ((Host.standard images).render v path s)
    ((Host.standard images).render w path s)

theorem congruent_child {v w : Json} (h : v.Alike w) (hrender : Congruent images v w) (path : Path)
    (s : Store) :
    Outcome.Alike (Option.map Widget.passive) ((Host.standard images).renderChild v path s)
      ((Host.standard images).renderChild w path s) := by
  cases h with
  | refl v => exact ⟨rfl, rfl, rfl⟩
  | object hget hoptions =>
    have hbelow := hrender (path ++ ["child"]) s
    exact ⟨hbelow.value, hbelow.store, hbelow.built⟩
  | _ => exact ⟨rfl, rfl, rfl⟩

theorem congruent_items {items others : List Json} (h : List.Forall₂ Json.Alike items others)
    (hrender : ∀ v ∈ items, ∀ w, v.Alike w → Congruent images v w) (i : Nat) (path : Path)
    (s : Store) :
    Outcome.Alike (List.map Widget.passive) ((Host.standard images).renderItems i items path s)
      ((Host.standard images).renderItems i others path s) := by
  induction h generalizing i s with
  | nil => exact ⟨rfl, rfl, rfl⟩
  | @cons v w rest more hv _ ih =>
    have hrest := ih (fun u hu => hrender u (List.mem_cons_of_mem v hu)) (i + 1)
    have hw := hv.isObject_eq
    cases hobject : v.isObject with
    | true =>
      rw [hobject] at hw
      have hfirst := hrender v List.mem_cons_self w hv (path ++ [toString i]) s
      have hsecond := hrest ((Host.standard images).render v (path ++ [toString i]) s).store
      rw [Host.renderItems_object _ hobject, Host.renderItems_object _ hw.symm]
      simp only [Outcome.before, ← hfirst.store]
      refine ⟨?_, hsecond.store, ?_⟩
      · have hvalue := hfirst.value
        simp only [List.map_append, ← Option.toList_map, hvalue, hsecond.value]
      · simp only [List.filterMap_append, hfirst.built, hsecond.built]
    | false =>
      rw [hobject] at hw
      have hsecond := hrest s
      rw [Host.renderItems_skipped _ hobject, Host.renderItems_skipped _ hw.symm]
      exact ⟨hsecond.value, hsecond.store, hsecond.built⟩

theorem congruent_form {config other : Config} {tag : String} {form : Form}
    (h : config.Alike other) (htag : config.name? "type" = some tag)
    (hform : Form.ofTag? images tag config = some form)
    (hget : ∀ w, (config.get "child").Alike w → Congruent images (config.get "child") w)
    (hitem : ∀ v ∈ (config.get "children").items, ∀ w, v.Alike w → Congruent images v w) :
    Congruent images (.obj config) (.obj other) := by
  intro path s
  obtain ⟨form', hform', halike⟩ := ofTag?_alike h hform
  have htag' : other.name? "type" = some tag := h.name?_eq "type" ▸ htag
  have hkey : identity config = identity other := by
    funext path
    rw [identity, identity, h.name?_eq]
  let child := (Host.standard images).renderChild (config.get "child")
  let child' := (Host.standard images).renderChild (other.get "child")
  let items := (Host.standard images).renderItems 0 (config.get "children").items
  let items' := (Host.standard images).renderItems 0 (other.get "children").items
  have hchild := congruent_child (h.get "child") (hget _ (h.get "child")) (path ++ [tag]) s
  have hitems := congruent_items (h.get "children").items hitem 0 (path ++ [tag]) s
  refine ⟨?_, ?_, ?_⟩
  · rw [render_value htag hform, render_value htag' hform', hkey]
    exact passive_inPlace halike.content_told fun c c' hc =>
      passive_content hc _ _ hchild.value hitems.value
  · rw [render_store htag hform, render_store htag' hform', ← hkey]
    rw [← halike.reach_eq]
    cases form.reach with
    | nothing => rfl
    | seed seed => rfl
    | child => exact hchild.store
    | items => exact hitems.store
  · have hbuilt := form.pass_events (identity config) child items (path ++ [tag]) s
      Event.built?_blind
    have hbuilt' := form'.pass_events (identity config) child' items' (path ++ [tag]) s
      Event.built?_blind
    rw [render_form htag hform, render_form htag' hform', contained_run, contained_run, ← hkey]
    refine (contained_built _ _ _ _ _ _).trans (Eq.trans ?_ (contained_built _ _ _ _ _ _).symm)
    refine congrArg _ (hbuilt.trans (Eq.trans ?_ hbuilt'.symm))
    rw [← halike.reach_eq]
    cases form.reach with
    | nothing => rfl
    | seed seed => rfl
    | child => exact hchild.built
    | items => exact hitems.built

theorem congruent {v w : Json} (h : v.Alike w) : Congruent images v w := by
  induction v using form_induction images generalizing w with
  | refused v e hv =>
    obtain ⟨e', hw, hmessage⟩ := hv.alike h
    intro path s
    rw [render_refused hv, render_refused hw, reportError_run, reportError_run, hmessage]
    exact ⟨rfl, rfl, rfl⟩
  | node config tag form htag hform hget hitem =>
    obtain ⟨other, rfl, hother⟩ := h.exists_object
    exact congruent_form hother htag hform (fun _ => hget) fun v hv _ => hitem v hv

end Congruent

namespace SamePassive

variable {w w' : Option Widget}

theorem map_eq (h : SamePassive w w') {f : Widget → β} (hf : ∀ v : Widget, f v.passive = f v) :
    w.map f = w'.map f := by
  have hsame := congrArg (Option.map f) h
  simpa only [Option.map_map, Function.comp_def, hf] using hsame

theorem dump_eq (h : SamePassive w w') : w.map Widget.dump = w'.map Widget.dump :=
  h.map_eq (Widget.dump_mapLeaves fun l => by cases l <;> rfl)

theorem errors_eq (h : SamePassive w w') : w.elim [] Widget.errors = w'.elim [] Widget.errors := by
  have hmap := h.map_eq (Widget.errors_mapLeaves fun l => by cases l <;> rfl)
  have helim := congrArg (fun errors => errors.getD []) hmap
  cases w <;> cases w' <;> exact helim

end SamePassive

theorem Host.present_store (host : Host) (document : Json) (s : Store) :
    (host.present document s).store = (host.render document [] s).store := by
  rw [present, presentation, Pass.bind_run]
  cases (host.render document [] s).value <;> rfl

/-- A document and one that comes from it by changes that leave its meaning, of any kinds and number,
are rendered as the same tree but for the actions that buttons keep, so with the same dump, or both
as nothing. The errors are the same, and so are the nodes that are built, with their identities, and
what is left in the store. -/
theorem present_changed (images : Option (ImageSource → Report Bool)) {document changed : Json}
    (h : Relation.ReflTransGen Json.Change document changed) (s : Store) :
    let o := (Host.standard images).present document s
    let o' := (Host.standard images).present changed s
    SamePassive o.value.widget o'.value.widget ∧
    o.value.widget.map Widget.dump = o'.value.widget.map Widget.dump ∧
    o.value.errors = o'.value.errors ∧
    o.events.filterMap Event.built? = o'.events.filterMap Event.built? ∧
    o.store = o'.store := by
  intro o o'
  have hall : Outcome.Alike (fun r : Rendering => r.widget.map Widget.passive) o o' := by
    -- Alike documents need not be alike through a third one, so the outcomes are chained instead.
    induction h with
    | refl => exact ⟨rfl, rfl, rfl⟩
    | tail _ hstep ih =>
      have hcongruent : Congruent images _ _ := congruent hstep.alike
      have hrender := hcongruent [] s
      refine ⟨ih.value.trans ?_, ih.store.trans ?_, ih.built.trans ?_⟩
      · rw [Host.present_value, Host.present_value]
        exact hrender.value
      · rw [Host.present_store, Host.present_store]
        exact hrender.store
      · rw [present_events Event.built?_blind, present_events Event.built?_blind]
        exact hrender.built
  have htree : SamePassive o.value.widget o'.value.widget := hall.value
  refine ⟨htree, htree.dump_eq, ?_, hall.built, hall.store⟩
  have herrors := htree.errors_eq
  simp only [o, o', Host.present_value] at herrors ⊢
  exact herrors

theorem present_changed_column :
    let column (items : List Json) := [("type", Json.str "column"), ("children", .arr items)]
    let checkbox := Json.obj [("type", .str "checkbox"), ("label", .str "Agree")]
    let document := Json.obj (column [
      .obj [("type", .str "container"), ("color", .null), ("width", .int 8)], checkbox])
    let changed := Json.obj (column [
      .obj [("width", .float (.ofNat 8)), ("type", .str "container"), ("id", .null)], checkbox]).reverse
    let o := (Host.standard none).present document .ephemeral
    let o' := (Host.standard none).present changed .ephemeral
    Relation.ReflTransGen Json.Change document changed ∧
    SamePassive o.value.widget o'.value.widget ∧
    o.value.widget.map Widget.dump = o'.value.widget.map Widget.dump ∧
    o.value.errors = o'.value.errors ∧
    o.events.filterMap Event.built? = o'.events.filterMap Event.built? ∧
    o.store = o'.store := by
  intro column checkbox document changed o o'
  have height : Double.ofInt? 8 = some (.ofNat 8) := by decide +kernel
  have hin {v w : Json} (h : Json.Change v w) :
      Json.Change (.obj (column [v, checkbox])) (.obj (column [w, checkbox])) :=
    @Json.Change.member [("type", .str "column")] [] "children" _ _
      (@Json.Change.item [] [checkbox] _ _ h) (by simp)
  have hnumber := hin <| @Json.Change.member [("type", .str "container"), ("color", .null)] []
    "width" _ _ (.number height) (by simp)
  have hdrop := hin <| @Json.Change.drop [("type", .str "container")]
    [("width", .float (.ofNat 8))] "color" (by simp)
  have horder := hin <| @Json.Change.reorder
    [("type", .str "container"), ("width", .float (.ofNat 8))]
    [("width", .float (.ofNat 8)), ("type", .str "container")] (.swap _ _ _) (by simp)
  have hadd := hin <| @Json.Change.add
    [("width", .float (.ofNat 8)), ("type", .str "container")] [] "id" (by simp)
  have hlast : Json.Change (.obj (column _)) changed :=
    .reorder (List.reverse_perm _).symm (by simp [column])
  have hchain : Relation.ReflTransGen Json.Change document changed :=
    .head hnumber (.head hdrop (.head horder (.head hadd (.single hlast))))
  exact ⟨hchain, present_changed none hchain .ephemeral⟩

end ServerUi
