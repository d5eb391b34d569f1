import ServerUi.Proofs.Render.Document
import ServerUi.Proofs.Widget.Values

/-! What is rendered twice, in two places and with two stores, differs in no more than the values of
interactive widgets. The two loaders need to answer alike; what they log may differ. -/

namespace ServerUi

/-- Loaders that give the same answer, or the same fault, for every image. -/
def LoadersAlike (images images' : Option (ImageSource → Report Bool)) : Prop :=
  ∀ source, (Build.loading images source).outcome = (Build.loading images' source).outcome

section Forms

variable {images images' : Option (ImageSource → Report Bool)}

/-- What a program comes to hangs on the answers of the loader alone. -/
theorem LoadersAlike.reading_outcome (h : LoadersAlike images images') (b : Build α) :
    (b.reading images).outcome = (b.reading images').outcome := by
  induction b with
  | done a => rfl
  | fail fault => rfl
  | note n next ih => simp only [Build.reading, Report.bind_outcome, ih]
  | loads source next ih => simp only [Build.reading, Report.bind_outcome, h source, ih]
  | bind k v next ih => exact ih _
  | write cell v next ih => exact ih _
  | key place next ih => exact ih _
  | node place next ih => exact ih _
  | children place next ih => exact ih _
  | child place field next ih => exact ih _

theorem LoadersAlike.content_still (h : LoadersAlike images images') (b : Build (Option Widget)) :
    (Form.still (b.reading images)).content = (Form.still (b.reading images')).content := by
  rw [Form.content, Form.content, h.reading_outcome]

theorem LoadersAlike.content (h : LoadersAlike images images') (tag : String) (config : Config) :
    (Form.ofTag? images tag config).map Form.content =
      (Form.ofTag? images' tag config).map Form.content := by
  unfold Form.ofTag?
  split
  case h_11 =>
    cases Form.stillBuilders.lookup tag with
    | none => rfl
    | some b => exact congrArg some (h.content_still (b config))
  all_goals rfl

theorem LoadersAlike.exists_form (h : LoadersAlike images images') {tag : String} {config : Config}
    {form : Form} (hform : Form.ofTag? images tag config = some form) :
    ∃ form', Form.ofTag? images' tag config = some form' ∧ form'.content = form.content := by
  have hcontent := h.content tag config
  rw [hform, Option.map_some] at hcontent
  exact Option.map_eq_some_iff.mp hcontent.symm

theorem Refused.of_loader {v : Json} {e : NodeError} (h : Refused images v e) :
    Refused images' v e := by
  cases h with
  | plain h => exact .plain h
  | untyped htag => exact .untyped htag
  | unknown htag hform => exact .unknown htag (ofTag?_eq_none images' (lookup_of_ofTag?_none hform) _)

end Forms

theorem unvalued_leaf (seed : Seed) (cell cell' : Cell) :
    (seed.leaf cell).unvalued = (seed.leaf cell').unvalued := by
  cases seed <;> rfl

/-- Under both hosts, wherever and with whatever stores the value is rendered. -/
def Independent (host host' : Host) (v : Json) : Prop :=
  ∀ path path' s s', (host.render v path s).value.map Widget.unvalued =
    (host'.render v path' s').value.map Widget.unvalued

section Slots

variable {host host' : Host}

theorem independent_child {v : Json} (h : Independent host host' v) (path path' : Path)
    (s s' : Store) :
    (host.renderChild v path s).value.map Widget.unvalued =
      (host'.renderChild v path' s').value.map Widget.unvalued := by
  cases v with
  | obj config => exact h (path ++ ["child"]) (path' ++ ["child"]) s s'
  | _ => rfl

theorem independent_items {items : List Json} (h : ∀ v ∈ items, Independent host host' v) (i : Nat)
    (path path' : Path) (s s' : Store) :
    (host.renderItems i items path s).value.map Widget.unvalued =
      (host'.renderItems i items path' s').value.map Widget.unvalued := by
  induction items generalizing i path path' s s' with
  | nil => rfl
  | cons v rest ih =>
    have hrest := ih fun u hu => h u (List.mem_cons_of_mem v hu)
    cases hv : v.isObject with
    | true =>
      have hfirst := h v List.mem_cons_self (path ++ [toString i]) (path' ++ [toString i]) s s'
      rw [host.renderItems_object hv, host'.renderItems_object hv]
      simp only [Outcome.before, List.map_append, ← Option.toList_map, hfirst]
      exact congrArg _ (hrest (i + 1) _ _ _ _)
    | false =>
      rw [host.renderItems_skipped hv, host'.renderItems_skipped hv]
      exact hrest (i + 1) path path' s s'

end Slots

theorem independent {images images' : Option (ImageSource → Report Bool)}
    (h : LoadersAlike images images') (v : Json) :
    Independent (Host.standard images) (Host.standard images') v := by
  induction v using form_induction images with
  | refused v e hv =>
    intro path path' s s'
    rw [render_refused hv, render_refused hv.of_loader]
    rfl
  | node config tag form htag hform hget hitem =>
    intro path path' s s'
    obtain ⟨form', hform', hcontent⟩ := h.exists_form hform
    rw [render_value htag hform, render_value htag hform', hcontent]
    refine map_inPlace_congr (fun c => ?_) form.content
    exact mapLeaves_content (independent_child hget _ _ _ _) c (fun _ _ => rfl)
      (fun seed => unvalued_leaf seed _ _) (independent_items hitem 0 _ _ _ _)

/-- A value that is rendered twice, at any two places and with any two stores, by loaders that
answer alike, is nothing both times, or two trees that are the same in every field but the value of
a checkbox and the selection of a dropdown; so the errors in them are the same. -/
theorem render_independent {images images' : Option (ImageSource → Report Bool)}
    (halike : LoadersAlike images images') (v : Json) (path path' : Path) (s s' : Store) :
    let shown := ((Host.standard images).render v path s).value
    let shown' := ((Host.standard images').render v path' s').value
    shown.map Widget.unvalued = shown'.map Widget.unvalued ∧
    shown.map Widget.dumpWithoutValues = shown'.map Widget.dumpWithoutValues ∧
    shown.map Widget.errors = shown'.map Widget.errors := by
  intro shown shown'
  have htree : shown.map Widget.unvalued = shown'.map Widget.unvalued :=
    independent halike v path path' s s'
  have hthrough {β : Type} {f : Widget → β} (hf : ∀ w : Widget, f w.unvalued = f w) :
      shown.map f = shown'.map f := by
    have hsame := congrArg (Option.map f) htree
    simpa only [Option.map_map, Function.comp_def, hf] using hsame
  exact ⟨htree, hthrough Widget.dump_unvalued, hthrough Widget.errors_unvalued⟩

theorem render_independent_remembered :
    let images := some fun source =>
      (⟨[.imageRejected source.kind source.location], .ok false⟩ : Report Bool)
    let images' := some fun _ => (⟨[], .ok false⟩ : Report Bool)
    let node := Json.obj [("type", .str "column"), ("children", .arr [
      .obj [("type", .str "checkbox"), ("id", .str "agree")],
      .obj [("type", .str "dropdown"), ("id", .str "plan"),
        ("options", .arr [.str "Free", .str "Pro"])]])]
    let store := Store.memory [("agree", .bool true), ("plan", .str "Pro")]
    let shown := ((Host.standard images).render node [] store).value
    let shown' := ((Host.standard images').render node ["row", "0"] .ephemeral).value
    LoadersAlike images images' ∧
    shown.map Widget.unvalued = shown'.map Widget.unvalued ∧
    shown.map Widget.dumpWithoutValues = shown'.map Widget.dumpWithoutValues ∧
    (shown.elim [] Widget.walk).filterMap Widget.input? =
      [("agree", .bool true), ("plan", .str "Pro")] ∧
    (shown'.elim [] Widget.walk).filterMap Widget.input? =
      [("agree", .bool false), ("plan", .str "Free")] := by
  intro images images' node store shown shown'
  have halike : LoadersAlike images images' := fun _ => rfl
  have hsame := render_independent halike node [] ["row", "0"] store .ephemeral
  exact ⟨halike, hsame.1, hsame.2.1, rfl, rfl⟩

end ServerUi
