import ServerUi.Proofs.Builder.Sound
import ServerUi.Proofs.Render.Document

/-! Rendered trees: a property that all doubles of a document have, and all finite ones, is one of
all numbers in its tree, whatever the store remembers. -/

namespace ServerUi

theorem Json.Doubles.items {P : Double → Prop} {v : Json} (h : v.Doubles P) :
    ∀ u ∈ v.items, u.Doubles P := by
  cases v with
  | arr items => exact h.arr
  | _ => exact fun u hu => absurd hu List.not_mem_nil

variable {images : Option (ImageSource → Report Bool)} {P : Double → Prop}

def RendersSound (images : Option (ImageSource → Report Bool)) (P : Double → Prop) (v : Json) :
    Prop :=
  ∀ path s, ∀ w ∈ ((Host.standard images).render v path s).value, w.Sound P

theorem renders_sound (hP : ∀ x : Double, x.IsFinite → P x) {v : Json} (h : v.Doubles P) :
    RendersSound images P v := by
  induction v using form_induction images with
  | refused v e hv =>
    intro path s
    rw [render_refused hv, reportError_run]
    rintro _ ⟨⟩
    exact error_sound hP e.message
  | node config tag form htag hform hget hitem =>
    intro path s
    have hchild := (Host.standard images).renderChild_forall (hget (h.get "child"))
    have hitems := (Host.standard images).renderItems_forall fun v hv =>
      hitem v hv ((h.get "children").items v hv)
    rw [render_value htag hform]
    rcases hc : form.content with fault | _ | c
    · rintro _ ⟨⟩
      exact error_sound hP _
    · exact fun w hw => nomatch hw
    · rintro _ ⟨⟩
      exact content_sound (ofTag?_sound hP h hform c hc) _ (s.admits_held _) (hchild _ _)
        (hitems _ _ _)

end ServerUi
