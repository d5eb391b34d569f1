import ServerUi.Proofs.Builder.Kept
import ServerUi.Proofs.Render.Parts

/-! Under builders that keep a property of leaves, all leaves that rendering comes to have it, and so
have those of every widget that a builder makes on the way, shown or not. -/

namespace ServerUi

/-- All leaves of what a builder is done with have a property. -/
def Event.Keeps (P : Leaf → Prop) : Event → Prop
  | finished _ w => Shows P w
  | _ => True

/-- Comes to a value with a property, whatever the store holds. -/
structure Pass.Keeps (P : Leaf → Prop) (Q : α → Prop) (p : Pass α) : Prop where
  value : ∀ path s, Q (p path s).value
  events : ∀ path s, ∀ e ∈ (p path s).events, e.Keeps P

namespace Pass.Keeps

variable {P : Leaf → Prop} {Q : α → Prop} {R : β → Prop}

theorem pure {a : α} (h : Q a) : (Pure.pure a : Pass α).Keeps P Q :=
  ⟨fun _ _ => h, by simp [Pass.pure_run]⟩

theorem bind {p : Pass α} {f : α → Pass β} (hp : p.Keeps P Q) (hf : ∀ a, Q a → (f a).Keeps P R) :
    (p >>= f).Keeps P R := by
  constructor
  · intro path s
    exact (hf _ (hp.value path s)).value _ _
  · intro path s e he
    rcases List.mem_append.mp he with he | he
    · exact hp.events path s e he
    · exact (hf _ (hp.value path s)).events _ _ e he

theorem emit {events : List Event} (h : ∀ e ∈ events, e.Keeps P) :
    (Pass.emit events).Keeps P fun _ => True :=
  ⟨fun _ _ => trivial, fun _ _ => h⟩

theorem notes (notices : List Notice) :
    (Pass.emit (notices.map .note)).Keeps P fun _ => True :=
  .emit (List.forall_mem_map.mpr fun _ _ => trivial)

theorem note (n : Notice) : (Pass.emit [.note n]).Keeps P fun _ => True := .notes [n]

theorem here : Pass.here.Keeps P fun _ => True :=
  ⟨fun _ _ => trivial, by simp [Pass.here_run]⟩

theorem under {p : Pass α} (hp : p.Keeps P Q) (segment : String) : (p.under segment).Keeps P Q :=
  ⟨fun path => hp.value (path ++ [segment]), fun path => hp.events (path ++ [segment])⟩

theorem bindCell (key : String) (v : Json) :
    (Pass.bindCell key v).Keeps P fun cell => ∃ u, cell = ⟨key, u⟩ := by
  refine ⟨fun path s => ?_, fun path s e he => by cases he⟩
  cases s with
  | ephemeral => exact ⟨v, rfl⟩
  | memory values =>
    change ∃ u, (Store.bind (.memory values) key v).1 = ⟨key, u⟩
    rw [Store.bind]
    split
    · exact ⟨_, rfl⟩
    · exact ⟨v, rfl⟩

theorem writeCell (cell : Cell) (v : Json) :
    (Pass.writeCell cell v).Keeps P fun c => c = { cell with value := v } := by
  refine ⟨fun _ _ => rfl, fun path s e he => ?_⟩
  change e ∈ (s.write cell.key v).2 at he
  cases s with
  | ephemeral => cases he
  | memory values =>
    rcases List.mem_cons.mp he with rfl | he
    · trivial
    · rw [List.mem_singleton.mp he]
      trivial

end Pass.Keeps

section Render

variable {P : Leaf → Prop}

theorem renderItems_keeps {parts : List Part}
    (h : ∀ p ∈ parts, p.All (Pass.Keeps P (Shows P))) (i : Nat) :
    (renderItems i parts).Keeps P fun ws => ∀ w ∈ ws, w.AllLeaves P := by
  induction parts generalizing i with
  | nil => exact .pure (by simp)
  | cons p rest ih =>
    obtain ⟨hp, hrest⟩ := List.forall_mem_cons.mp h
    unfold renderItems
    split
    · refine .bind (hp.render.under _) fun w hw => .bind (ih hrest (i + 1)) fun ws hws => .pure ?_
      exact List.forall_mem_append.mpr ⟨fun v hv => hw v (Option.mem_toList.mp hv), hws⟩
    · exact .bind (.note _) fun _ _ => ih hrest (i + 1)

theorem renderMember_keeps {p : Part} (h : p.All (Pass.Keeps P (Shows P))) (field : String) :
    (renderMember p field).Keeps P (Shows P) := by
  unfold renderMember
  split
  · exact .pure .none
  · next q hq =>
    split
    · exact .pure .none
    · exact (h.lookup hq).render.under _
    · exact .bind (.note _) fun _ _ => .pure .none

theorem askLoader_keeps (images : Option (ImageSource → Report Bool)) (source : ImageSource) :
    (askLoader images source).Keeps P fun _ => True := by
  cases images with
  | none => exact .pure trivial
  | some loader => exact .bind (.notes _) fun _ _ => .pure trivial

variable (herror : ∀ message frame, P (.error message frame))

include herror

theorem error_shows (message : String) : Shows P (some (Widget.error message)) :=
  .leaf (herror message _)

theorem reportError_keeps (error : NodeError) (key : Path → String) :
    (reportError error key).Keeps P (Shows P) :=
  .bind .here fun _ _ => .bind (.note _) fun _ _ => .pure (error_shows herror _)

theorem Build.run_keeps (images : Option (ImageSource → Report Bool)) {p : Part}
    (h : p.All (Pass.Keeps P (Shows P))) {Q : α → Prop} {b : Build α} (hb : b.Keeps P Q) :
    (b.run images p).Keeps P fun outcome => ∀ a, outcome = .ok a → Q a := by
  induction b with
  | done a =>
    refine .pure ?_
    rintro _ ⟨⟩
    exact hb
  | fail fault => exact .pure (by simp)
  | note n next ih => exact .bind (.note n) fun _ _ => ih hb
  | key place next ih => exact .bind .here fun _ _ => ih _ (hb _)
  | node place next ih =>
    refine .bind ?_ fun w hw => ih w (hb w hw)
    cases hq : p.at? place with
    | none => exact reportError_keeps herror _ _
    | some q => exact (h.at? hq).render
  | children place next ih =>
    refine .bind (renderItems_keeps ?_ 0) fun ws hws => ih ws (hb ws hws)
    cases hq : p.at? place with
    | none => simp
    | some q => exact (h.at? hq).items
  | child place field next ih =>
    refine .bind ?_ fun w hw => ih w (hb w hw)
    cases hq : p.at? place with
    | none => exact .pure .none
    | some q => exact renderMember_keeps (h.at? hq) field
  | bind k initial next ih =>
    refine .bind (.bindCell k initial) fun cell hcell => ?_
    obtain ⟨v, rfl⟩ := hcell
    exact ih _ (hb v)
  | write cell v next ih =>
    refine .bind (.writeCell cell v) fun c hc => ?_
    rw [hc]
    exact ih _ hb
  | loads source next ih =>
    rw [Build.run]
    refine .bind (askLoader_keeps images source) fun answer _ => ?_
    cases answer with
    | ok b => exact ih b (hb b)
    | error fault => exact .pure (by simp)

theorem contained_keeps (tag : String) (key : Path → String)
    {build : Pass (Except Fault (Option Widget))}
    (h : build.Keeps P fun outcome => ∀ w, outcome = .ok w → Shows P w) :
    (contained tag key build).Keeps P (Shows P) := by
  have hbuilt (path : Path) : (Pass.emit [.built path (key path)]).Keeps P fun _ => True :=
    .emit (by simp [Event.Keeps])
  refine .under (.bind .here fun path _ => .bind (hbuilt path) fun _ _ => .bind h ?_) tag
  intro outcome hw
  cases outcome with
  | ok w =>
    have hfinished (path : Path) : (Pass.emit [.finished path w]).Keeps P fun _ => True :=
      .emit (List.forall_mem_singleton.mpr (hw w rfl))
    exact .bind .here fun path _ => .bind (hfinished path) fun _ _ => .pure (hw w rfl)
  | error fault =>
    exact .bind (reportError_keeps herror _ _) fun w hw => .bind (.note _) fun _ _ => .pure hw

end Render

/-- All builders that are asked for keep a property of leaves. -/
def Registry.Keeps (P : Leaf → Prop) (r : Registry) : Prop :=
  ∀ tag b, r.lookup tag = some b → b.Keeps P

theorem Registry.standard_keeps : Registry.standard.Keeps Leaf.Chosen := by
  intro tag b hb
  exact standard_entries_keep _ (mem_of_lookup hb)

namespace Host

variable {P : Leaf → Prop} {host : Host} (h : host.registry.Keeps P)
  (herror : ∀ message frame, P (.error message frame))

include h herror

theorem renders_keeps : host.Renders (Pass.Keeps P (Shows P)) := by
  refine ⟨reportError_keeps herror, fun config parts hparts => ?_⟩
  unfold buildNode
  split
  · exact reportError_keeps herror _ _
  · next tag _ =>
    split
    · exact reportError_keeps herror _ _
    · next b hb =>
      have hbuilder : b.Keeps P := h tag b hb
      refine contained_keeps herror _ _ (Build.run_keeps herror _ ?_ (hbuilder config))
      exact .mk (.pure .none) (by simp) hparts

theorem parted_keeps (v : Json) : (parted host v).All (Pass.Keeps P (Shows P)) :=
  parted_all (renders_keeps h herror) v

end Host

end ServerUi
