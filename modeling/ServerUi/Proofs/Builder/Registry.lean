import ServerUi.Proofs.State.Seed
import ServerUi.Session.Basic

/-! What a registry has under a tag after a registration, after a removal, and once the standard
builders have been added. -/

namespace ServerUi

namespace Registry

theorem lookup_put (entries : List (String × Builder)) (tag : String) (b : Builder) (k : String) :
    (put entries tag b).lookup k = if k = tag then some b else entries.lookup k := by
  induction entries with
  | nil => exact lookup_cons_ite k tag b []
  | cons e rest ih =>
    obtain ⟨name, c⟩ := e
    by_cases hname : name = tag
    · subst hname
      by_cases hk : k = name <;> simp [put, lookup_cons_ite, hk]
    · by_cases hk : k = name
      · subst hk
        simp [put, hname]
      · simp [put, hname, lookup_cons_ite, hk, ih]

theorem lookup_insert (r : Registry) (tag : String) (b : Builder) (k : String) :
    (r.insert tag b).lookup k = if k = tag then some b else r.lookup k :=
  lookup_put r.entries tag b k

theorem lookup_erase (r : Registry) (tag k : String) :
    (r.erase tag).lookup k = if k = tag then none else r.lookup k :=
  lookup_filter_ne r.entries tag k

theorem contains_eq (r : Registry) (tag : String) : r.contains tag = (r.lookup tag).isSome := by
  obtain ⟨entries⟩ := r
  change entries.any (·.1 == tag) = (entries.lookup tag).isSome
  induction entries with
  | nil => rfl
  | cons e rest ih =>
    obtain ⟨name, c⟩ := e
    rw [List.any_cons, ih, lookup_cons_ite]
    by_cases hname : name = tag
    · subst hname
      simp
    · simp [hname, Ne.symm hname]

theorem lookup_insert_missing (r : Registry) (name : String) (b : Builder) (tag : String) :
    (if r.contains name then r else r.insert name b).lookup tag =
      (r.lookup tag).or (if tag = name then some b else none) := by
  rw [contains_eq]
  by_cases hname : tag = name
  · subst hname
    cases hfound : r.lookup tag with
    | none => simp [lookup_insert]
    | some c => simp [hfound]
  · rw [if_neg hname, Option.or_none]
    split
    · rfl
    · rw [lookup_insert, if_neg hname]

/-- Adding the standard builders leaves alone what a tag had before. -/
theorem lookup_withStandard (r : Registry) (tag : String) :
    r.withStandard.lookup tag = (r.lookup tag).or (standard.lookup tag) := by
  have hadded (entries : List (String × Builder)) (r : Registry) :
      (entries.foldl (fun r e => if r.contains e.1 then r else r.insert e.1 e.2) r).lookup tag =
        (r.lookup tag).or (entries.lookup tag) := by
    induction entries generalizing r with
    | nil => exact (Option.or_none).symm
    | cons e rest ih =>
      obtain ⟨name, b⟩ := e
      have hfirst := lookup_insert_missing r name b tag
      rw [List.foldl_cons, ih]
      refine (congrArg (fun found => found.or (rest.lookup tag)) hfirst).trans ?_
      rw [lookup_cons_ite, Option.or_assoc]
      by_cases hname : tag = name <;> simp [hname]
  exact hadded standard.entries r

/-- A registration puts a builder under a name that is not empty, and any other one is refused. -/
theorem register_cases (r : Registry) (tag : Json) (builder : Option Builder) :
    (∃ name b notices, tag = .str name ∧ name ≠ "" ∧ builder = some b ∧
      r.register tag builder = .ok (r.insert name b, notices)) ∨
    ((∀ name, tag = .str name → name = "") ∨ builder = none) ∧
      ∃ e, r.register tag builder = .error e := by
  cases tag with
  | str name =>
    by_cases hname : name = ""
    · subst hname
      exact .inr ⟨.inl fun other h => (Json.str.inj h).symm, _, rfl⟩
    · cases builder with
      | none => exact .inr ⟨.inr rfl, .notCallable name, by simp [register]⟩
      | some b =>
        let notices := if r.contains name then [Notice.builderReplaced name] else []
        exact .inl ⟨name, b, notices, rfl, hname, rfl, by simp [register, notices]⟩
  | _ => exact .inr ⟨.inl (by rintro name ⟨⟩), _, rfl⟩

end Registry

/-- What a host asks of the registry of a session. -/
inductive Registration where
  | register (tag : Json) (builder : Option Builder)
  | unregister (tag : String)

namespace Session

def registration (x : Session) : Registration → Session
  | .register tag builder => (x.register tag builder).2
  | .unregister tag => (x.unregister tag).2

def registrations (x : Session) (calls : List Registration) : Session := calls.foldl registration x

section Calls

variable (x : Session)

theorem registration_images (call : Registration) :
    (x.registration call).host.images = x.host.images := by
  cases call with
  | register tag builder =>
    simp only [registration, register]
    cases x.host.registry.register tag builder <;> rfl
  | unregister tag => rfl

/-- A registration that is refused leaves the session as it was. -/
theorem register_refused {tag : Json} {builder : Option Builder}
    (h : (∀ name, tag = .str name → name = "") ∨ builder = none) :
    ∃ e, x.register tag builder = (⟨.error e, []⟩, x) := by
  rcases x.host.registry.register_cases tag builder with
    ⟨name, b, notices, rfl, hname, rfl, -⟩ | ⟨-, e, he⟩
  · rcases h with hempty | hnone
    · exact absurd (hempty name rfl) hname
    · cases hnone
  · refine ⟨e, ?_⟩
    rw [register, he]

/-- Only the tag of a registration is affected by it. -/
theorem registration_lookup {t : String} {call : Registration}
    (h : (∃ b, call = .register (.str t) b) ∨ call = .unregister t) {tag : String} (hne : tag ≠ t) :
    (x.registration call).host.registry.lookup tag = x.host.registry.lookup tag := by
  rcases h with ⟨builder, rfl⟩ | rfl
  · rcases x.host.registry.register_cases (.str t) builder with
      ⟨name, b, notices, htag, -, rfl, hregister⟩ | ⟨-, e, he⟩
    · have hput := x.host.registry.lookup_insert name b tag
      rw [if_neg (Json.str.inj htag ▸ hne)] at hput
      simp only [registration, register, hregister]
      exact hput
    · simp only [registration, register, he]
  · have herased := x.host.registry.lookup_erase t tag
    rw [if_neg hne] at herased
    exact herased

end Calls

end Session

end ServerUi
