import ServerUi.Builder.Custom
import ServerUi.Builder.Registry
import ServerUi.Proofs.Builder.Laws
import ServerUi.Proofs.State.Seed
import ServerUi.Proofs.Widget.Leaves

/-! Properties of leaves that builders keep: what a builder makes has them, if what is rendered for it
has. The standard builders, and those that hosts add, make no dropdown but one that shows one of its
options, whatever the store hands them. -/

namespace ServerUi

/-- All leaves of what is there have a property. -/
def Shows (P : Leaf → Prop) (w : Option Widget) : Prop := ∀ v ∈ w, v.AllLeaves P

theorem Shows.none {P : Leaf → Prop} : Shows P none := by
  intro v hv
  cases hv

theorem Shows.some {P : Leaf → Prop} {w : Widget} (h : w.AllLeaves P) : Shows P (some w) := by
  rintro _ ⟨⟩
  exact h

theorem Shows.leaf {P : Leaf → Prop} {l : Leaf} (h : P l) : Shows P (Option.some (.leaf l)) :=
  .some (Widget.allLeaves_leaf.mpr h)

/-- A dropdown with options shows one of them. -/
def Leaf.Chosen : Leaf → Prop
  | dropdown options _ cell => ∃ choice ∈ options, selectedValue options cell = .str choice
  | _ => True

namespace Build

/-- Whatever is rendered and bound for a program, what it is done with has a property; `P` is what
leaves that are rendered have. -/
def Keeps (P : Leaf → Prop) (Q : α → Prop) : Build α → Prop
  | done a => Q a
  | fail _ => True
  | note _ next => next.Keeps P Q
  | key _ next => ∀ k, (next k).Keeps P Q
  | node _ next => ∀ w, Shows P w → (next w).Keeps P Q
  | children _ next => ∀ ws, (∀ w ∈ ws, w.AllLeaves P) → (next ws).Keeps P Q
  | child _ _ next => ∀ w, Shows P w → (next w).Keeps P Q
  | bind k _ next => ∀ v, (next ⟨k, v⟩).Keeps P Q
  | write cell v next => (next { cell with value := v }).Keeps P Q
  | loads _ next => ∀ b, (next b).Keeps P Q

namespace Keeps

variable {P : Leaf → Prop} {Q : α → Prop} {R : β → Prop}

theorem bind {b : Build α} {f : α → Build β} (hb : b.Keeps P Q)
    (hf : ∀ a, Q a → (f a).Keeps P R) : (b >>= f).Keeps P R := by
  change (b.andThen f).Keeps P R
  induction b with
  | done a => exact hf a hb
  | fail fault => trivial
  | note n next ih => exact ih hb
  | key place next ih => exact fun k => ih k (hb k)
  | node place next ih => exact fun w hw => ih w (hb w hw)
  | children place next ih => exact fun ws hws => ih ws (hb ws hws)
  | child place field next ih => exact fun w hw => ih w (hb w hw)
  | bind k initial next ih => exact fun v => ih _ (hb v)
  | write cell v next ih => exact ih _ hb
  | loads source next ih => exact fun b => ih b (hb b)

theorem pure {a : α} (h : Q a) : (Pure.pure a : Build α).Keeps P Q := h

theorem ofReport (r : Report α) : (Build.ofReport r).Keeps P fun _ => True := by
  obtain ⟨notices, outcome⟩ := r
  induction notices with
  | nil => cases outcome <;> trivial
  | cons n rest ih => exact ih

theorem lift (outcome : Except Fault α) : (liftM outcome : Build α).Keeps P fun _ => True :=
  ofReport (Report.ofExcept outcome)

theorem ownKey : Build.ownKey.Keeps P fun _ => True := fun _ => trivial

theorem childAt (field : String) : (Build.childAt field).Keeps P (Shows P) := fun _ hw => hw

theorem childrenAt (field : String) :
    (Build.childrenAt field).Keeps P fun ws => ∀ w ∈ ws, w.AllLeaves P := fun _ hws => hws

theorem bindCell (key : String) (v : Json) : (Build.bindCell key v).Keeps P fun _ => True :=
  fun _ => trivial

theorem writeCell (cell : Cell) (v : Json) :
    (Build.writeCell cell v).Keeps P fun c => c = { cell with value := v } := rfl

theorem isLoadable (source : ImageSource) : (Build.isLoadable source).Keeps P fun _ => True :=
  fun _ => trivial

end Keeps

end Build

def Builder.Keeps (P : Leaf → Prop) (b : Builder) : Prop := ∀ config, (b config).Keeps P (Shows P)

section Standard

theorem text_keeps : Builder.text.Keeps Leaf.Chosen := by
  intro config
  refine .bind (.lift _) fun content _ => ?_
  cases content with
  | none => exact .pure .none
  | some content =>
    exact .bind (.ofReport _) fun _ _ => .bind (.ofReport _) fun _ _ => .pure (.leaf trivial)

theorem richText_keeps : Builder.richText.Keeps Leaf.Chosen := by
  intro config
  refine .bind (.lift _) fun items _ => ?_
  rcases items with _ | _ | ⟨item, items⟩
  · exact .pure .none
  · exact .pure .none
  · exact .bind (.ofReport _) fun _ _ => .bind (.ofReport _) fun _ _ => .pure (.leaf trivial)

theorem button_keeps : Builder.button.Keeps Leaf.Chosen := by
  intro config
  refine .bind (.lift _) fun content _ => ?_
  cases content with
  | none => exact .pure .none
  | some content => exact .pure (.leaf trivial)

theorem placeholder_shows (p : Placeholder) : Shows Leaf.Chosen (some p.widget) := by
  refine .some (Widget.allLeaves_wrapper.mpr ?_)
  rintro _ ⟨⟩
  exact Widget.allLeaves_leaf.mpr trivial

theorem image_keeps : Builder.image.Keeps Leaf.Chosen := by
  intro config
  refine .bind (.lift _) fun source _ => ?_
  cases source with
  | none => exact .pure .none
  | some source =>
    refine .bind (.ofReport _) fun width _ => .bind (.ofReport _) fun height _ =>
      .bind (.isLoadable source) fun loads _ => ?_
    cases loads with
    | false => exact .pure (placeholder_shows _)
    | true => exact .bind (.ofReport _) fun _ _ => .pure (.leaf trivial)

theorem icon_keeps : Builder.icon.Keeps Leaf.Chosen := by
  intro config
  refine .bind (.lift _) fun name _ => ?_
  cases name with
  | none => exact .pure .none
  | some name =>
    exact .bind (.ofReport _) fun _ _ => .bind (.ofReport _) fun _ _ =>
      .bind (.ofReport _) fun _ _ => .pure (.leaf trivial)

theorem divider_keeps : Builder.divider.Keeps Leaf.Chosen := fun _ =>
  .bind (.ofReport _) fun _ _ => .bind (.ofReport _) fun _ _ =>
    .bind (.ofReport _) fun _ _ => .pure (.leaf trivial)

theorem group_shows {P : Leaf → Prop} (g : Group) {ws : List Widget}
    (h : ∀ w ∈ ws, w.AllLeaves P) : Shows P (some (.group g ws)) :=
  .some (Widget.allLeaves_group.mpr h)

theorem wrapper_shows {P : Leaf → Prop} (w : Wrapper) {child : Option Widget} (h : Shows P child) :
    Shows P (some (.wrapper w child)) :=
  .some (Widget.allLeaves_wrapper.mpr h)

theorem flex_keeps (axis : Axis) : (Builder.flex axis).Keeps Leaf.Chosen := by
  intro config
  refine .bind (.lift _) fun items _ => ?_
  cases items with
  | none => exact .pure .none
  | some items =>
    exact .bind (.childrenAt _) fun children hchildren => .bind (.ofReport _) fun _ _ =>
      .bind (.ofReport _) fun _ _ => .pure (group_shows _ hchildren)

theorem listView_keeps : Builder.listView.Keeps Leaf.Chosen := by
  intro config
  refine .bind (.lift _) fun items _ => ?_
  cases items with
  | none => exact .pure .none
  | some items =>
    exact .bind (.lift _) fun _ _ => .bind (.childrenAt _) fun children hchildren =>
      .pure (group_shows _ hchildren)

theorem container_keeps : Builder.container.Keeps Leaf.Chosen := fun _ =>
  .bind (.childAt _) fun _ hchild => .bind (.ofReport _) fun _ _ =>
    .bind (.ofReport _) fun _ _ => .bind (.ofReport _) fun _ _ => .bind (.ofReport _) fun _ _ =>
    .bind (.ofReport _) fun _ _ => .bind (.ofReport _) fun _ _ => .pure (wrapper_shows _ hchild)

theorem center_keeps : Builder.center.Keeps Leaf.Chosen := fun _ =>
  .bind (.childAt _) fun _ hchild => .pure (wrapper_shows _ hchild)

theorem sizedBox_keeps : Builder.sizedBox.Keeps Leaf.Chosen := fun _ =>
  .bind (.childAt _) fun _ hchild => .bind (.ofReport _) fun _ _ =>
    .bind (.ofReport _) fun _ _ => .pure (wrapper_shows _ hchild)

theorem card_keeps : Builder.card.Keeps Leaf.Chosen := fun _ =>
  .bind (.lift _) fun _ _ => .bind (.ofReport _) fun _ _ => .bind (.ofReport _) fun _ _ =>
    .bind (.childAt _) fun _ hchild => .pure (wrapper_shows _ (wrapper_shows _ hchild))

theorem textField_keeps : Builder.textField.Keeps Leaf.Chosen := fun _ =>
  .bind .ownKey fun _ _ => .bind (.lift _) fun _ _ => .bind (.lift _) fun _ _ =>
    .pure (.leaf trivial)

theorem checkbox_keeps : Builder.checkbox.Keeps Leaf.Chosen := fun _ =>
  .bind (.lift _) fun _ _ => .bind (.lift _) fun _ _ => .bind .ownKey fun _ _ =>
    .bind (.bindCell _ _) fun _ _ => .pure (.leaf trivial)

theorem chosen_of_isOption {options : List String} {label : Option String} {cell : Cell}
    (h : Builder.isOption options cell.value = true) :
    (Leaf.dropdown options label (some cell)).Chosen :=
  exists_of_isOption h

/-- What the store hands out is written over unless it is an option. -/
theorem dropdown_keeps : Builder.dropdown.Keeps Leaf.Chosen := by
  intro config
  refine .bind (.lift _) fun items _ => ?_
  rcases items with _ | _ | ⟨item, items⟩
  · exact .pure .none
  · exact .pure .none
  · refine .bind (.lift _) fun label _ => .bind .ownKey fun key _ => ?_
    refine .bind (.bindCell _ _) fun cell _ => ?_
    have hfirst : Builder.isOption (item.shown :: items.map Json.shown) (.str item.shown) = true :=
      List.contains_iff_mem.mpr List.mem_cons_self
    split
    · next hcell => exact .pure (.leaf (chosen_of_isOption hcell))
    · exact .bind (.writeCell _ _) fun _ hcell => .pure (.leaf (chosen_of_isOption (hcell ▸ hfirst)))

theorem standard_entries_keep : ∀ m ∈ Registry.standard.entries, m.2.Keeps Leaf.Chosen := by
  simp only [Registry.standard, List.forall_mem_cons, List.not_mem_nil, false_implies,
    implies_true, and_true]
  exact ⟨text_keeps, richText_keeps, button_keeps, image_keeps, icon_keeps, flex_keeps _,
    flex_keeps _, container_keeps, center_keeps, sizedBox_keeps, card_keeps, textField_keeps,
    checkbox_keeps, dropdown_keeps, listView_keeps, divider_keeps⟩

theorem custom_keeps (b : CustomBuilder) : b.builder.Keeps Leaf.Chosen := by
  intro config
  cases b with
  | const text => exact .pure (.leaf trivial)
  | raise fault => trivial
  | child field => exact .childAt field
  | inline field => exact fun _ hw => hw
  | row field => exact .bind (.childrenAt field) fun ws hws => .pure (group_shows _ hws)
  | key => exact .bind .ownKey fun key _ => .pure (.leaf trivial)
  | nothing => exact .pure .none

end Standard

end ServerUi
