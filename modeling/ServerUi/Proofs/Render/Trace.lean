import ServerUi.Proofs.Builder.Faults
import ServerUi.Proofs.Render.Document
import ServerUi.Proofs.Session.History

/-! What a node that is shown as an error leaves in the store. Nothing, as long as its builder fails
on fields that it reads before anything below is rendered; a container and a sized box can still
fail on their own numbers once the child has been entered. -/

namespace ServerUi

/-- A node with a builder is not shown as an error by what it contains. -/
theorem Content.Fits.errorMessage?_eq {refuses : Bool} {tag : String} {c : Content}
    (h : c.Fits refuses tag) (key : String) (value : Seed → Json) (child : Option Widget)
    (items : List Widget) : (c.widget key value child items).errorMessage? = none := by
  cases c with
  | still w =>
    rcases h.still_cases with ⟨l, rfl, hkind⟩ | ⟨p, rfl⟩
    · cases l with
      | error message frame => simp [Leaf.kind] at hkind
      | _ => rfl
    · rfl
  | input seed => cases seed <;> rfl
  | _ => rfl

section Standard

variable {images : Option (ImageSource → Report Bool)} {config : Config}

/-- The store that a node of a form leaves behind when its builder ends in a fault. -/
theorem render_fault_store {tag : String} {form : Form} (htag : config.name? "type" = some tag)
    (hform : Form.ofTag? images tag config = some form) {fault : Fault}
    (hfault : form.content = .error fault) (path : Path) (s : Store) :
    let host := Host.standard images
    (host.render (.obj config) path s).store = s ∨
    (tag ∈ ["container", "sizedBox"] ∧ fault.IsOverflow) ∧
      (host.render (.obj config) path s).store =
        (host.renderChild (config.get "child") (path ++ [tag]) s).store := by
  intro host
  have hstore := render_store htag hform path s
  rcases (ofTag?_faultsBehind hform).of_content hfault with hr | ⟨hr, hbehind⟩
  · rw [hr] at hstore
    exact .inl hstore
  · rw [hr] at hstore
    exact .inr ⟨hbehind, hstore⟩

end Standard

/-- A value that is shown as an error leaves the store as it was, unless it is a container or a
sized box and the fault is a number too large for a double. What is left then is what rendering the
child does, although nothing of the child is shown. -/
theorem render_error_store (images : Option (ImageSource → Report Bool)) (v : Json) (path : Path)
    (s : Store) (message : String)
    (hshown : ((Host.standard images).render v path s).value.bind Widget.errorMessage? =
      some message) :
    let host := Host.standard images
    let o := host.render v path s
    o.store = s ∨
    ∃ (config : Config) (tag : String), v = .obj config ∧ config.name? "type" = some tag ∧
      tag ∈ ["container", "sizedBox"] ∧ message = (NodeError.failed .overflow).message ∧
      o.store = (host.renderChild (config.get "child") (path ++ [tag]) s).store := by
  -- The cases are all that is needed: what lies below a node is told by the child's own rendering.
  induction v using form_induction images with
  | refused v e h =>
    intro host o
    exact .inl (congrArg Outcome.store (congrFun₂ (render_refused h) path s))
  | node config tag form htag hform _ _ =>
    intro host o
    rw [render_value htag hform] at hshown
    rcases hc : form.content with fault | _ | c <;> rw [hc] at hshown
    · have hmessage : (NodeError.failed fault).message = message := Option.some.inj hshown
      rcases render_fault_store htag hform hc path s with hstore | ⟨⟨hmem, rfl⟩, hstore⟩
      · exact .inl hstore
      · exact .inr ⟨config, tag, rfl, htag, hmem, hmessage.symm, hstore⟩
    · cases hshown
    · change (c.widget _ _ _ _).errorMessage? = some message at hshown
      rw [(ofTag?_fits hform c hc).errorMessage?_eq] at hshown
      cases hshown

/-- A container around a checkbox, with a width that has no double. -/
def oversizedContainer : Json :=
  .obj [("type", .str "container"), ("width", .int (.ofNat (tenPower 309))),
    ("child", .obj [("type", .str "checkbox"), ("id", .str "agree")])]

theorem render_error_store_container :
    let host := Host.standard none
    let o := host.render oversizedContainer [] (.memory [])
    o.value.bind Widget.errorMessage? = some "parse error: int too large to convert to float" ∧
    (o.store = .memory [] ∨
      ∃ (config : Config) (tag : String), oversizedContainer = .obj config ∧
        config.name? "type" = some tag ∧ tag ∈ ["container", "sizedBox"] ∧
        "parse error: int too large to convert to float" = (NodeError.failed .overflow).message ∧
        o.store = (host.renderChild (config.get "child") ([] ++ [tag]) (.memory [])).store) := by
  intro host o
  have hshown : o.value.bind Widget.errorMessage? =
      some "parse error: int too large to convert to float" := by decide +kernel
  exact ⟨hshown, render_error_store none oversizedContainer [] (.memory []) _ hshown⟩

/-- The value of a checkbox that nobody can see stays in the store. -/
theorem error_leaves_trace :
    ¬ ∀ (images : Option (ImageSource → Report Bool)) (calls : List Session.Call) (v : Json)
      (path : Path) (message : String),
      let x := (Session.start (Host.standard images) (.memory []) none).history calls
      let o := x.host.render v path x.store
      o.value.bind Widget.errorMessage? = some message → o.store.snapshot = x.store.snapshot := by
  intro h
  have hsame := h none [] oversizedContainer []
    "parse error: int too large to convert to float" (by decide +kernel)
  exact absurd (congrArg (List.map Prod.fst) hsame) (by decide +kernel)

end ServerUi
