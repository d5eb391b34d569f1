import ServerUi.Proofs.Builder.Kinds
import ServerUi.Proofs.Except

/-! Two computations side by side: where one comes to a value, the other comes to a related one.
Unlike computations that are alike, they need not fail together. -/

namespace ServerUi

/-- Where one report comes to a value, the other comes to a related one. -/
def Report.Matched (R : α → β → Prop) (r : Report α) (r' : Report β) : Prop :=
  ∀ a, r.outcome = .ok a → ∃ b, r'.outcome = .ok b ∧ R a b

namespace Report.Matched

variable {R : α → β → Prop} {Q : γ → δ → Prop}

theorem pure {a : α} {b : β} (h : R a b) : (Pure.pure a : Report α).Matched R (Pure.pure b) := by
  rintro _ ⟨⟩
  exact ⟨b, rfl, h⟩

theorem bind {r : Report α} {r' : Report β} {f : α → Report γ} {f' : β → Report δ}
    (hr : r.Matched R r') (hf : ∀ a b, R a b → (f a).Matched Q (f' b)) :
    (r >>= f).Matched Q (r' >>= f') := by
  intro c hc
  rw [Report.bind_outcome, bind_eq_ok_iff] at hc
  obtain ⟨a, ha, hc⟩ := hc
  obtain ⟨b, hb, hab⟩ := hr a ha
  obtain ⟨d, hd, hcd⟩ := hf a b hab c hc
  rw [Report.bind_outcome, hb]
  exact ⟨d, hd, hcd⟩

theorem refl (r : Report α) : r.Matched Eq r := fun a ha => ⟨a, ha, rfl⟩

theorem value {r : Report α} {r' : Report β} {b : β} (h : r'.outcome = .ok b) :
    r.Matched (fun _ c => c = b) r' := fun _ _ => ⟨b, h, rfl⟩

theorem same {r : Report α} {f : α → Report γ} {f' : α → Report δ}
    (hf : ∀ a, (f a).Matched Q (f' a)) : (r >>= f).Matched Q (r >>= f') :=
  bind (.refl r) fun a _ h => h ▸ hf a

theorem read {r : Report α} {r' : Report β} {f : α → Report γ} {f' : β → Report δ} {b : β}
    (hr : r'.outcome = .ok b) (hf : ∀ a, (f a).Matched Q (f' b)) :
    (r >>= f).Matched Q (r' >>= f') :=
  bind (.value hr) fun a _ h => h ▸ hf a

end Report.Matched

namespace Build

def Matched (images : Option (ImageSource → Report Bool)) (R : α → β → Prop) (b : Build α)
    (b' : Build β) : Prop :=
  (b.reading images).Matched R (b'.reading images)

namespace Matched

variable {images : Option (ImageSource → Report Bool)} {R : α → β → Prop} {Q : γ → δ → Prop}

theorem pure {a : α} {b : β} (h : R a b) :
    (Pure.pure a : Build α).Matched images R (Pure.pure b) :=
  Report.Matched.pure h

theorem refl (b : Build α) : b.Matched images Eq b := Report.Matched.refl _

theorem bind {b : Build α} {b' : Build β} {f : α → Build γ} {f' : β → Build δ}
    (hb : b.Matched images R b') (hf : ∀ a a', R a a' → (f a).Matched images Q (f' a')) :
    (b >>= f).Matched images Q (b' >>= f') := by
  rw [Matched, reading_bind, reading_bind]
  exact Report.Matched.bind hb hf

theorem lift {r : Report α} {r' : Report β} (h : r.Matched R r') :
    (liftM r : Build α).Matched images R (liftM r' : Build β) := by
  rw [Matched, lift_report, lift_report, reading_ofReport, reading_ofReport]
  exact h

theorem same {b : Build α} {f : α → Build γ} {f' : α → Build δ}
    (hf : ∀ a, (f a).Matched images Q (f' a)) : (b >>= f).Matched images Q (b >>= f') :=
  bind (.refl _) fun a _ h => h ▸ hf a

theorem read {r : Report α} {r' : Report β} {f : α → Build γ} {f' : β → Build δ} {b : β}
    (hr : r'.outcome = .ok b) (hf : ∀ a, (f a).Matched images Q (f' b)) :
    ((liftM r : Build α) >>= f).Matched images Q ((liftM r' : Build β) >>= f') :=
  bind (.lift (.value hr)) fun a _ h => h ▸ hf a

end Matched

end Build

end ServerUi
