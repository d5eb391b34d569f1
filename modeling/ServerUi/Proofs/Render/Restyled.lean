import ServerUi.Proofs.Builder.Styles
import ServerUi.Proofs.Render.Around

/-! Style fields of a document do not interfere. What one of them reads as shows in the one property
that it sets, and nowhere else in the tree. -/

namespace ServerUi

section Node

variable {images : Option (ImageSource → Report Bool)} {config : Config} {tag : String} {α : Type}
  {field : StyleField Widget α} {edit : Option Json → Config} {o : Option Json} {a : α}

theorem StyleField.Of.name?_eq (hfield : field.Of tag config edit) {key : String}
    (hkey : key ∈ ["type", "id", "child", "children"]) (o : Option Json) :
    (edit o).name? key = config.name? key := by
  rw [Config.name?, Config.name?, hfield.keeps o hkey]

/-- A node with another value in a style field leaves the store as it does before, and its widget
differs in what the field sets. -/
theorem render_restyled (htag : config.name? "type" = some tag)
    (hbuilt : Built images (.obj config)) (hfield : field.Of tag config edit)
    (ha : (field.read (o.getD .null)).outcome = .ok a) :
    (Host.standard images).StandsIn (.obj config) (.obj (edit o)) ∧
    ∀ path s, ∃ w, ((Host.standard images).render (.obj config) path s).value = some w ∧
      ((Host.standard images).render (.obj (edit o)) path s).value = some (field.set a w) ∧
      (field.set a w).errors = w.errors := by
  obtain ⟨_, tag', form, c, ⟨⟩, htag', hform, hc⟩ := hbuilt.exists_content
  obtain rfl := Option.some.inj (htag.symm.trans htag')
  obtain ⟨form', c', hform', hc', hreach, hwidget⟩ := hfield.exists_content hform hc ha
  have hname : (edit o).name? "type" = some tag := (hfield.name?_eq (by decide) o).trans htag
  have hkey (path : Path) : identity (edit o) path = identity config path := by
    rw [identity, identity, hfield.name?_eq (by decide)]
  have hchild : (edit o).get "child" = config.get "child" := hfield.keeps o (by decide)
  have hchildren : (edit o).get "children" = config.get "children" := hfield.keeps o (by decide)
  refine ⟨⟨rfl, fun path s => ?_⟩, fun path s => ?_⟩
  · have hsame : form'.reach = form.reach := by
      rw [Form.reach_of_content hc', hreach, Form.reach_of_content hc]
    rw [render_store hname hform', render_store htag hform, hsame, hkey, hchild, hchildren]
  · let key := identity config (path ++ [tag])
    let child := ((Host.standard images).renderChild (config.get "child") (path ++ [tag]) s).value
    let items := ((Host.standard images).renderItems 0 (config.get "children").items
      (path ++ [tag]) s).value
    refine ⟨c.widget key (s.held key) child items, ?_, ?_, ?_⟩
    · rw [render_value htag hform, hc]
      rfl
    · rw [render_value hname hform', hc', hkey, hchild, hchildren, ← hwidget]
      rfl
    · rw [← hwidget, errors_content (ofTag?_fits hform' c' hc'),
        errors_content (ofTag?_fits hform c hc)]

end Node

section Position

variable {images : Option (ImageSource → Report Bool)} {document : Json} {p : List Slot}
  {config : Config} {tag : String} {α : Type} {field : StyleField Widget α}
  {edit : Option Json → Config} (hat : document.at? p = some (.obj config))
  (htag : config.name? "type" = some tag) (hbuilt : Built images (.obj config))
  (hfield : field.Of tag config edit) (s : Store)

include hat htag hbuilt hfield

theorem restyled_shown (hopen : Open images document p) (hshows : document.shows p = true) :
    let host := Host.standard images
    ∃ layers t w errors, (host.render (.obj config) (document.wayTo [] p) t).value = some w ∧
      (host.present document s).value = ⟨enclosed layers (some w), errors⟩ ∧
      ∀ o a, (field.read (o.getD .null)).outcome = .ok a →
        (host.present (document.replace p (.obj (edit o))) s).value =
          ⟨enclosed layers (some (field.set a w)), errors⟩ := by
  intro host
  obtain ⟨layers, t, hlayers⟩ := render_replace hopen hat rfl hshows [] s
  have hself := hlayers (.obj config) ⟨rfl, fun _ _ => rfl⟩
  rw [Json.replace_self hat] at hself
  obtain ⟨-, hnode⟩ := render_restyled htag hbuilt hfield (o := none) hfield.read_null
  obtain ⟨w, hw, -, -⟩ := hnode (document.wayTo [] p) t
  let errors := (enclosed layers (some w)).elim [] Widget.errors
  refine ⟨layers, t, w, errors, hw, ?_, fun o a ha => ?_⟩
  · simp only [host, Host.present_value, hself, hw, errors]
  · obtain ⟨hstands, hnode⟩ := render_restyled htag hbuilt hfield ha
    obtain ⟨_, hw', hset, herrors⟩ := hnode (document.wayTo [] p) t
    obtain rfl := Option.some.inj (hw.symm.trans hw')
    simp only [host, Host.present_value, hlayers _ hstands, hset, errors, errors_enclosed,
      Option.elim_some, herrors]

theorem restyled_hidden (hhidden : ¬ (Open images document p ∧ document.shows p = true))
    {o : Option Json} {a : α} (ha : (field.read (o.getD .null)).outcome = .ok a) :
    let host := Host.standard images
    (host.present (document.replace p (.obj (edit o))) s).value =
      (host.present document s).value := by
  intro host
  have hstands := (render_restyled htag hbuilt hfield ha).1
  have hsame := render_replace_hidden hat rfl hhidden hstands [] s
  simp only [host, Host.present_value, hsame]

end Position

/-- Any value that can be read is put in a style field of a built node, or the field is left out. If
the node is shown, its widget differs in nothing but what the field sets; the tree around it is the
same, and so are the errors. If it is not shown, nothing changes. A value that comes to what a
missing field comes to shows as if the field was left out. -/
theorem present_restyled (images : Option (ImageSource → Report Bool)) (document : Json)
    {p : List Slot} {config : Config} {tag : String} (hat : document.at? p = some (.obj config))
    (htag : config.name? "type" = some tag) (hbuilt : Built images (.obj config)) {α : Type}
    {field : StyleField Widget α} {edit : Option Json → Config}
    (hfield : field.Of tag config edit) (s : Store) :
    let host := Host.standard images
    let shown (v : Json) := (host.present v s).value
    let edited (o : Option Json) := shown (document.replace p (.obj (edit o)))
    let visible := Open images document p ∧ document.shows p = true
    (visible → ∃ layers t w errors,
      (host.render (.obj config) (document.wayTo [] p) t).value = some w ∧
      shown document = ⟨enclosed layers (some w), errors⟩ ∧
      ∀ o a, (field.read (o.getD .null)).outcome = .ok a →
        edited o = ⟨enclosed layers (some (field.set a w)), errors⟩) ∧
    (¬ visible → ∀ o a, (field.read (o.getD .null)).outcome = .ok a →
      edited o = shown document) ∧
    ∀ v, (field.read v).outcome = .ok field.unset → edited (some v) = edited none := by
  intro host shown edited visible
  have hshown (h : visible) := restyled_shown hat htag hbuilt hfield s h.1 h.2
  have hhidden (h : ¬ visible) (o : Option Json) (a : α)
      (ha : (field.read (o.getD .null)).outcome = .ok a) : edited o = shown document :=
    restyled_hidden hat htag hbuilt hfield s h ha
  refine ⟨hshown, hhidden, fun v hv => ?_⟩
  by_cases h : visible
  · obtain ⟨layers, t, w, errors, -, -, hedited⟩ := hshown h
    have hput := hedited (some v) field.unset hv
    have hleft := hedited none field.unset hfield.read_null
    exact hput.trans hleft.symm
  · have hput := hhidden h (some v) field.unset hv
    have hleft := hhidden h none field.unset hfield.read_null
    exact hput.trans hleft.symm

theorem present_restyled_side :
    let text (s : String) := Json.obj [("type", .str "text"), ("text", .str s)]
    let insets : Config := [("left", .float (.ofNat 4)), ("top", .bool true)]
    let container : Config :=
      [("type", .str "container"), ("padding", .obj insets), ("child", text "a")]
    let document := Json.obj
      [("type", .str "column"), ("children", .arr [.obj container, text "b"])]
    let shown (v : Json) := ((Host.standard none).present v .ephemeral).value
    let edited (o : Option Json) := shown (document.replace [.item 0]
      (.obj (container.put "padding" (.obj (insets.assign "left" o)))))
    (∃ layers w errors, shown document = ⟨enclosed layers (some w), errors⟩ ∧
      edited (some (.float (.ofNat 9))) = ⟨enclosed layers (some
        (w.setPadding (some ⟨.ofNat 9, .zero, .zero, .zero⟩))), errors⟩) ∧
    edited (some (.str "wide")) = edited none := by
  intro text insets container document shown edited
  have hbuilt : Built none (.obj container) := ⟨"container", rfl⟩
  have hpadding : StyleField.Of "container" container ⟨Style.edgeInsets, none, Widget.setPadding⟩
      (container.assign "padding") := .own .containerPadding
  have hread : (Style.edgeInsets (.obj insets)).outcome =
      .ok (some ⟨.ofNat 4, .zero, .zero, .zero⟩) := rfl
  have hfield := hpadding.inner rfl hread .left
  have hvisible : Open none document [.item 0] ∧ document.shows [.item 0] = true :=
    ⟨⟨⟨"column", rfl⟩, fun _ _ => trivial⟩, rfl⟩
  have hat : document.at? [.item 0] = some (.obj container) := rfl
  obtain ⟨hshown, -, hunset⟩ := present_restyled none document hat rfl hbuilt hfield .ephemeral
  obtain ⟨layers, t, w, errors, -, hdocument, hedited⟩ := hshown hvisible
  exact ⟨⟨layers, w, errors, hdocument, hedited _ _ rfl⟩, hunset (.str "wide") rfl⟩

end ServerUi
