import ServerUi.Proofs.Render.Sound

/-! Rendered trees and their summaries. Trees from documents without NaN have the same content
exactly if their summaries are equal but for what the cells hold. -/

namespace ServerUi

theorem renders_proper {images : Option (ImageSource → Report Bool)} {v : Json}
    (h : v.hasNan = false) (path : Path) (s : Store) :
    ∀ w ∈ ((Host.standard images).render v path s).value, w.Proper := by
  refine renders_sound (fun x hx => ?_) (Json.doubles_of_hasNan h) path s
  cases hx
  exact nofun

/-- Two trees rendered from documents without NaN have the same content if and only if their
summaries become equal once the values of checkboxes and the selections of dropdowns are left out.
Having the same content is an equivalence, and it overlooks the cells, the actions of buttons, the
identities of text fields and the signs of zeros, and nothing else. -/
theorem rendered_same_iff (images images' : Option (ImageSource → Report Bool))
    {document other : Json} (hdocument : document.hasNan = false) (hother : other.hasNan = false)
    (s s' : Store) {a b : Widget}
    (ha : ((Host.standard images).present document s).value.widget = some a)
    (hb : ((Host.standard images').present other s').value.widget = some b) :
    (a.same b = true ↔ a.summaryWithoutValues.Equal b.summaryWithoutValues) ∧
    (a.same b = true ↔ a.bare = b.bare) ∧
    Equivalence fun w v : Widget => w.same v = true := by
  rw [Host.present_value] at ha hb
  have haproper : a.Proper := renders_proper hdocument [] s a ha
  have hbproper : b.Proper := renders_proper hother [] s' b hb
  refine ⟨?_, a.same_iff b, Widget.same_equivalence⟩
  rw [a.same_iff b, Widget.summary_iff haproper hbproper]

theorem rendered_same_iff_zeros :
    let document (checked : Bool) (width : Double) := Json.obj [("type", .str "column"),
      ("children", .arr [
        .obj [("type", .str "checkbox"), ("label", .str "Agree"), ("value", .bool checked)],
        .obj [("type", .str "sizedBox"), ("width", .float width)]])]
    let tree (checked : Bool) (width : Double) := Widget.group (.flex .vertical .start .center) [
      .leaf (.checkbox (some "Agree") (some ⟨"column/0/checkbox", .bool checked⟩)),
      .wrapper (.sizedBox (some width) none) none]
    let negative : Double := .finite true 0 short_zero unitsLimit_pos
    let a := tree true negative
    let b := tree false .zero
    (document true negative).hasNan = false ∧ (document false .zero).hasNan = false ∧
    ((Host.standard none).present (document true negative) .ephemeral).value.widget = some a ∧
    ((Host.standard none).present (document false .zero) .ephemeral).value.widget = some b ∧
    (a.same b = true ↔ a.summaryWithoutValues.Equal b.summaryWithoutValues) ∧
    (a.same b = true ↔ a.bare = b.bare) ∧
    Equivalence fun w v : Widget => w.same v = true := by
  intro document tree negative a b
  have hdocument : (document true negative).hasNan = false := by rfl
  have hother : (document false .zero).hasNan = false := by rfl
  have ha : ((Host.standard none).present (document true negative) .ephemeral).value.widget =
      some a := by rfl
  have hb : ((Host.standard none).present (document false .zero) .ephemeral).value.widget =
      some b := by rfl
  exact ⟨hdocument, hother, ha, hb,
    rendered_same_iff none none hdocument hother .ephemeral .ephemeral ha hb⟩

end ServerUi
