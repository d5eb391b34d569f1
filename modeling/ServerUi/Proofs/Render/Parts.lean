import ServerUi.Proofs.Json.Members
import ServerUi.Render.Node

/-! A document whose every part is rendered in a way that has a property. What a builder asks about the
parts of its node has the property then, too. -/

namespace ServerUi

/-- Each part of a value, and the value itself, is rendered in such a way. -/
inductive Part.All {ρ : Type} (R : ρ → Prop) : Part ρ → Prop where
  | mk {v : Json} {render : ρ} {items : List (Part ρ)} {members : List (String × Part ρ)}
      (hrender : R render) (hitems : ∀ q ∈ items, q.All R) (hmembers : ∀ m ∈ members, m.2.All R) :
      Part.All R (.mk v render items members)

namespace Part.All

variable {ρ : Type} {R : ρ → Prop} {p q : Part ρ}

theorem render (h : p.All R) : R p.render := by
  cases h with
  | mk hrender _ _ => exact hrender

theorem items (h : p.All R) : ∀ q ∈ p.items, q.All R := by
  cases h with
  | mk _ hitems _ => exact hitems

theorem members (h : p.All R) : ∀ m ∈ p.members, m.2.All R := by
  cases h with
  | mk _ _ hmembers => exact hmembers

theorem lookup (h : p.All R) {key : String} (hq : p.members.lookup key = some q) : q.All R :=
  h.members (key, q) (mem_of_lookup hq)

theorem at? (h : p.All R) {place : Place} (hq : p.at? place = some q) : q.All R := by
  induction place generalizing p with
  | nil =>
    cases hq
    exact h
  | cons hop rest ih =>
    cases hop with
    | member key =>
      obtain ⟨r, hr, hq⟩ := Option.bind_eq_some_iff.mp hq
      exact ih (h.lookup hr) hq
    | item i =>
      obtain ⟨r, hr, hq⟩ := Option.bind_eq_some_iff.mp hq
      exact ih (h.items r (List.mem_of_getElem? hr)) hq

end Part.All

/-- Errors, and nodes whose parts are rendered in such a way, are rendered so as well. -/
structure Host.Renders (R : Pass (Option Widget) → Prop) (host : Host) : Prop where
  error : ∀ error key, R (reportError error key)
  node : ∀ (config : Config) (parts : List (String × Part)), (∀ m ∈ parts, m.2.All R) →
    R (buildNode host config parts)

section Parted

variable {R : Pass (Option Widget) → Prop} {host : Host}

mutual

theorem parted_all (h : host.Renders R) : ∀ v : Json, (parted host v).All R
  | .obj members =>
    have hmembers := partedMembers_all h members
    .mk (h.node members _ hmembers) (by simp) hmembers
  | .arr items => .mk (h.error _ _) (partedItems_all h items) (by simp)
  | .null | .bool _ | .int _ | .float _ | .str _ => .mk (h.error _ _) (by simp) (by simp)

theorem partedItems_all (h : host.Renders R) : ∀ items : List Json,
    ∀ p ∈ partedItems host items, p.All R
  | [] => by simp [partedItems]
  | v :: rest => by
    have hv := parted_all h v
    have hrest := partedItems_all h rest
    exact List.forall_mem_cons.mpr ⟨hv, hrest⟩

theorem partedMembers_all (h : host.Renders R) : ∀ members : List (String × Json),
    ∀ m ∈ partedMembers host members, m.2.All R
  | [] => by simp [partedMembers]
  | (k, v) :: rest => by
    have hv := parted_all h v
    have hrest := partedMembers_all h rest
    exact List.forall_mem_cons.mpr ⟨hv, hrest⟩

end

end Parted

end ServerUi
