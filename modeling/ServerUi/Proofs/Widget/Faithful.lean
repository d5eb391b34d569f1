import ServerUi.Proofs.Widget.Fields

/-! What the summaries of two trees without the values of cells tell apart: exactly what is compared
of the trees, as long as there is no NaN among the numbers, a colour has 32 bits, and the box in
place of an image is as large as the image. -/

namespace ServerUi

section Widgets

open Json

/-- The numbers have a property, and colours have 32 bits. The box in place of an image has the size
of the image, and a dropdown shows a text. -/
def Leaf.Sound (P : Double → Prop) : Leaf → Prop
  | .text _ style _ => ∀ s ∈ style, s.Sound P
  | .richText spans _ => ∀ s ∈ spans, s.Sound P
  | .icon _ size color => (∀ x ∈ size, P x) ∧ ∀ c ∈ color, c.InRange
  | .image _ width height _ placeholder =>
    (∀ x ∈ width, P x) ∧ (∀ x ∈ height, P x) ∧ placeholder = some (.ofSize width height)
  | .dropdown _ _ cell => ∀ c ∈ cell, ∃ s, c.value = .str s
  | .divider height thickness color =>
    (∀ x ∈ height, P x) ∧ (∀ x ∈ thickness, P x) ∧ ∀ c ∈ color, c.InRange
  | .error _ frame => frame.Sound P
  | _ => True

theorem Leaf.names_eq {l l' : Leaf} (h : l.kind = l'.kind) :
    l.traits.map Prod.fst = l'.traits.map Prod.fst := by
  cases l <;> cases l' <;> first | rfl | simp [kind] at h

theorem Leaf.nodup_names (l : Leaf) : ("kind" :: l.traits.map Prod.fst ++ ["children"]).Nodup := by
  cases l <;> simp [traits, ErrorFrame.traits]

/-- Leaves of one kind are told apart by their fields. -/
theorem Leaf.traits_iff {l l' : Leaf} (hl : l.Sound (· ≠ .nan)) (hl' : l'.Sound (· ≠ .nan))
    (hkind : l.kind = l'.kind) :
    FieldsEqual l.traits l'.traits ↔ l.bare = l'.bare := by
  have hstr {o o' : Option String} : Option.Rel Equal (o.map .str) (o'.map .str) ↔ o = o' :=
    rel_injective fun _ _ => equal_str
  -- Of the pairs of kinds only those of twice the same are left.
  cases l <;> cases l' <;> try (simp [kind] at hkind; done)
  all_goals
    simp only [traits, bare, fieldsEqual_cons, fieldsEqual_nil, and_true, Option.rel_some_some,
      hstr, rel_injective equal_choice, rel_injective equal_source, unlessDefault_inj]
  case text.text => rw [rel_style hl, text.injEq]
  case richText.richText spans align spans' align' =>
    have hplain (h : spans.map TextSpan.unsigned = spans'.map TextSpan.unsigned) :
        plainText spans = plainText spans' := by
      rw [← plainText_unsigned spans, h, plainText_unsigned]
    rw [rel_spans hl, equal_str, richText.injEq]
    exact ⟨fun h => ⟨h.1, h.2.1⟩, fun h => ⟨h.1, h.2, hplain h.1⟩⟩
  case button.button => rw [button.injEq, and_iff_left rfl]
  case icon.icon =>
    rw [rel_number hl.1, equal_color hl.2 hl'.2, icon.injEq]
  case image.image =>
    -- The box in place of the image is not written, but it is as large as the image.
    obtain ⟨hwidth, hheight, rfl⟩ := hl
    obtain ⟨-, -, rfl⟩ := hl'
    rw [rel_number hwidth, rel_number hheight, image.injEq]
    refine ⟨fun h => ⟨h.1, h.2.1, h.2.2.1, h.2.2.2, ?_⟩, fun h => ⟨h.1, h.2.1, h.2.2.1, h.2.2.2.1⟩⟩
    simp only [Option.map_some, placeholder_unsigned, h.2.1, h.2.2.1]
  case textField.textField => rw [textField.injEq, and_iff_left rfl]
  case checkbox.checkbox => rw [checkbox.injEq, and_iff_left rfl]
  case dropdown.dropdown => rw [rel_options, dropdown.injEq, and_iff_left rfl]
  case divider.divider =>
    rw [rel_number hl.1, rel_number hl.2.1, equal_color hl.2.2 hl'.2.2, divider.injEq]
  case error.error => rw [rel_frame hl hl', error.injEq]

structure Box.Sound (P : Double → Prop) (box : Box) : Prop where
  width : ∀ x ∈ box.width, P x
  height : ∀ x ∈ box.height, P x
  padding : ∀ e ∈ box.padding, e.Sound P
  margin : ∀ e ∈ box.margin, e.Sound P
  color : ∀ c ∈ box.color, c.InRange
  radius : ∀ x ∈ box.radius, P x

def Wrapper.Sound (P : Double → Prop) : Wrapper → Prop
  | .container box => box.Sound P
  | .center => True
  | .sizedBox width height => (∀ x ∈ width, P x) ∧ ∀ x ∈ height, P x
  | .padding insets => insets.Sound P
  | .card elevation margin => P elevation ∧ ∀ e ∈ margin, e.Sound P

theorem Wrapper.names_eq {w w' : Wrapper} (h : w.kind = w'.kind) :
    w.traits.map Prod.fst = w'.traits.map Prod.fst := by
  cases w <;> cases w' <;> first | rfl | simp [kind] at h

theorem Wrapper.nodup_names (w : Wrapper) :
    ("kind" :: w.traits.map Prod.fst ++ ["children"]).Nodup := by
  cases w <;> simp [traits]

/-- Insets are left out as a whole if every side is left out. -/
theorem summary_isEmpty_iff {e : EdgeInsets} (he : e.Sound (· ≠ .nan)) :
    e.summary.isEmpty = true ↔ e.unsigned = EdgeInsets.zero.unsigned := by
  have hside (name : String) {x : Double} (hx : x ≠ .nan) :
      nonzero? name x = [] ↔ x.unsigned = Double.zero.unsigned := by
    rw [← Double.sameNumber_iff hx, Double.sameNumber_zero, nonzero?]
    cases x.isZero <;> simp
  simp only [EdgeInsets.summary, List.isEmpty_iff, List.append_eq_nil_iff, hside _ he.left,
    hside _ he.top, hside _ he.right, hside _ he.bottom, and_assoc]
  rw [EdgeInsets.unsigned, EdgeInsets.unsigned, EdgeInsets.mk.injEq]
  rfl

theorem Wrapper.traits_iff {w w' : Wrapper} (hw : w.Sound (· ≠ .nan)) (hw' : w'.Sound (· ≠ .nan))
    (hkind : w.kind = w'.kind) :
    FieldsEqual w.traits w'.traits ↔ w.unsigned = w'.unsigned := by
  cases w <;> cases w' <;> try (simp [kind] at hkind; done)
  all_goals
    simp only [traits, unsigned, fieldsEqual_cons, fieldsEqual_nil, and_true, Option.rel_some_some]
  case container.container box box' =>
    have hradius : Option.Rel Equal (box.radius.map radiusJson) (box'.radius.map radiusJson) ↔
        box.radius.map Double.unsigned = box'.radius.map Double.unsigned :=
      rel_map fun x hx _ _ => equal_radius (hw.radius x hx)
    rw [rel_number hw.width, rel_number hw.height, rel_insets hw.padding hw'.padding,
      rel_insets hw.margin hw'.margin, equal_color hw.color hw'.color, hradius, container.injEq,
      Box.unsigned, Box.unsigned, Box.mk.injEq]
  case sizedBox.sizedBox => rw [rel_number hw.1, rel_number hw.2, sizedBox.injEq]
  case padding.padding =>
    rw [padding.injEq]
    exact rel_unless (summary_isEmpty_iff hw) (summary_isEmpty_iff hw') (equal_insets hw hw')
  case card.card =>
    rw [rel_unlessNumber _ hw.1 hw'.1, rel_insets hw.2 hw'.2, card.injEq]

theorem Group.names_eq {g g' : Group} (h : g.kind = g'.kind) :
    g.traits.map Prod.fst = g'.traits.map Prod.fst := by
  rcases g with ⟨_ | _, main, cross⟩ | shrinkWrap <;>
    rcases g' with ⟨_ | _, main', cross'⟩ | shrinkWrap' <;> first | rfl | simp [kind] at h

theorem Group.nodup_names (g : Group) :
    ("kind" :: g.traits.map Prod.fst ++ ["children"]).Nodup := by
  cases g <;> simp [traits]

theorem Group.traits_iff {g g' : Group} (hkind : g.kind = g'.kind) :
    FieldsEqual g.traits g'.traits ↔ g = g' := by
  rcases g with ⟨_ | _, main, cross⟩ | shrinkWrap <;>
    rcases g' with ⟨_ | _, main', cross'⟩ | shrinkWrap' <;> try (simp [kind] at hkind; done)
  all_goals
    simp only [traits, fieldsEqual_cons, fieldsEqual_nil, and_true, rel_injective equal_choice,
      rel_injective fun _ _ => equal_bool, unlessDefault_inj, flex.injEq, listView.injEq, true_and]

theorem forall₂_append_singleton {α β : Type} {R : α → β → Prop} {as : List α} {bs : List β} {a : α}
    {b : β} (hlength : as.length = bs.length) :
    List.Forall₂ R (as ++ [a]) (bs ++ [b]) ↔ List.Forall₂ R as bs ∧ R a b := by
  constructor
  · intro h
    have hfront := List.forall₂_take_append _ _ _ h
    have hlast := List.forall₂_drop_append _ _ _ h
    rw [List.take_left' hlength] at hfront
    rw [List.drop_left' hlength, List.forall₂_cons] at hlast
    exact ⟨hfront, hlast.1⟩
  · rintro ⟨hfront, hlast⟩
    exact List.rel_append hfront (.cons hlast .nil)

theorem rel_below (below below' : List Json) :
    Option.Rel Equal (if below.isEmpty then none else some (.arr below))
        (if below'.isEmpty then none else some (.arr below')) ↔
      List.Forall₂ Equal below below' := by
  cases below with
  | nil =>
    cases below' with
    | nil => exact iff_of_true .none .nil
    | cons v rest => exact iff_of_false nofun nofun
  | cons v rest =>
    cases below' with
    | nil => exact iff_of_false nofun nofun
    | cons u more => exact Option.rel_some_some.trans equal_arr

/-- Entries whose fields have the same names if their kinds are the same are compared by kind, field
by field and child by child. -/
theorem equal_entry {kind kind' : String} {traits traits' : List (String × Option Json)}
    (hnodup : ("kind" :: traits.map Prod.fst ++ ["children"]).Nodup)
    (hnames : kind = kind' → traits.map Prod.fst = traits'.map Prod.fst)
    (below below' : List Json) :
    Equal (entry kind traits below) (entry kind' traits' below') ↔
      kind = kind' ∧ FieldsEqual traits traits' ∧ List.Forall₂ Equal below below' := by
  by_cases hkind : kind = kind'
  · have hlength : traits.length = traits'.length := by
      have hmap := congrArg List.length (hnames hkind)
      rwa [List.length_map, List.length_map] at hmap
    rw [entry, entry, equal_present _ _ (by simp [hnames hkind]) (by simpa using hnodup),
      List.cons_append, List.cons_append, fieldsEqual_cons, Option.rel_some_some, equal_str,
      FieldsEqual, forall₂_append_singleton hlength, rel_below]
    rfl
  · refine iff_of_false (fun h => hkind ?_) fun h => hkind h.1
    have hmember := equal_obj.mp h "kind"
    exact equal_str.mp (Option.rel_some_some.mp hmember)

theorem Leaf.kind_bare (l : Leaf) : l.bare.kind = l.kind := by
  cases l <;> rfl

theorem Wrapper.kind_unsigned (w : Wrapper) : w.unsigned.kind = w.kind := by
  cases w <;> rfl

theorem Leaf.kind_ne_wrapper (l : Leaf) (w : Wrapper) : l.kind ≠ w.kind := by
  cases l <;> cases w <;> simp [kind, Wrapper.kind]

theorem Leaf.kind_ne_group (l : Leaf) (g : Group) : l.kind ≠ g.kind := by
  rcases g with ⟨_ | _, main, cross⟩ | shrinkWrap <;> cases l <;> simp [kind, Group.kind]

theorem Wrapper.kind_ne_group (w : Wrapper) (g : Group) : w.kind ≠ g.kind := by
  rcases g with ⟨_ | _, main, cross⟩ | shrinkWrap <;> cases w <;> simp [kind, Group.kind]

end Widgets

namespace Widget

theorem sizeOf_child_lt {w c : Widget} (h : c ∈ w.children) : sizeOf c < sizeOf w := by
  cases w with
  | leaf l => cases h
  | wrapper w child =>
    obtain rfl := Option.mem_toList.mp h
    simp only [wrapper.sizeOf_spec, Option.some.sizeOf_spec]
    omega
  | group g children =>
    have hlt := List.sizeOf_lt_of_mem (show c ∈ children from h)
    simp only [group.sizeOf_spec]
    omega

inductive Sound (P : Double → Prop) : Widget → Prop where
  | leaf {l : Leaf} (h : l.Sound P) : Sound P (.leaf l)
  | wrapper {w : Wrapper} {child : Option Widget} (h : w.Sound P)
    (hchild : ∀ c ∈ child, Sound P c) : Sound P (.wrapper w child)
  | group (g : Group) {children : List Widget} (h : ∀ c ∈ children, Sound P c) :
    Sound P (.group g children)

theorem Sound.children {P : Double → Prop} {w : Widget} (h : w.Sound P) :
    ∀ c ∈ w.children, c.Sound P := by
  cases h with
  | leaf h => nofun
  | wrapper h hchild => exact fun c hc => hchild c (Option.mem_toList.mp hc)
  | group g h => exact h

theorem names_eq {a b : Widget} (h : a.kind = b.kind) :
    a.traits.map Prod.fst = b.traits.map Prod.fst := by
  cases a with
  | leaf l =>
    cases b with
    | leaf l' => exact Leaf.names_eq h
    | wrapper w child => exact absurd h (l.kind_ne_wrapper w)
    | group g children => exact absurd h (l.kind_ne_group g)
  | wrapper w child =>
    cases b with
    | leaf l => exact absurd h.symm (l.kind_ne_wrapper w)
    | wrapper w' child' => exact Wrapper.names_eq h
    | group g children => exact absurd h (w.kind_ne_group g)
  | group g children =>
    cases b with
    | leaf l => exact absurd h.symm (l.kind_ne_group g)
    | wrapper w child => exact absurd h.symm (w.kind_ne_group g)
    | group g' children' => exact Group.names_eq h

theorem nodup_names (w : Widget) : ("kind" :: w.traits.map Prod.fst ++ ["children"]).Nodup := by
  cases w with
  | leaf l => exact l.nodup_names
  | wrapper w child => exact w.nodup_names
  | group g children => exact g.nodup_names

/-- There is no NaN among the numbers. -/
def Proper (w : Widget) : Prop := w.Sound (· ≠ .nan)

theorem bare_iff {a b : Widget} (ha : a.Proper) (hb : b.Proper) :
    a.bare = b.bare ↔ a.kind = b.kind ∧
      FieldsEqual a.traits b.traits ∧
      a.children.map bare = b.children.map bare := by
  cases ha with
  | @leaf l hl =>
    cases hb with
    | @leaf l' hl' =>
      rw [bare, bare, leaf.injEq]
      refine ⟨fun h => ?_, fun h => (Leaf.traits_iff hl hl' h.1).mp h.2.1⟩
      have hkind : l.kind = l'.kind := by rw [← l.kind_bare, h, l'.kind_bare]
      exact ⟨hkind, (Leaf.traits_iff hl hl' hkind).mpr h, rfl⟩
    | @wrapper w child _ _ =>
      rw [bare_wrapper]
      exact iff_of_false nofun fun h => l.kind_ne_wrapper w h.1
    | group g _ => exact iff_of_false nofun fun h => l.kind_ne_group g h.1
  | @wrapper w child hw hchild =>
    rw [bare_wrapper]
    cases hb with
    | @leaf l _ => exact iff_of_false nofun fun h => l.kind_ne_wrapper w h.1.symm
    | @wrapper w' child' hw' hchild' =>
      have hbelow : (child.map bare = child'.map bare) ↔
          child.toList.map bare = child'.toList.map bare := by
        cases child <;> cases child' <;> simp
      rw [bare_wrapper, wrapper.injEq, hbelow]
      refine ⟨fun h => ?_, fun h => ⟨(Wrapper.traits_iff hw hw' h.1).mp h.2.1, h.2.2⟩⟩
      have hkind : w.kind = w'.kind := by rw [← w.kind_unsigned, h.1, w'.kind_unsigned]
      exact ⟨hkind, (Wrapper.traits_iff hw hw' hkind).mpr h.1, h.2⟩
    | group g _ => exact iff_of_false nofun fun h => w.kind_ne_group g h.1
  | @group g children hchildren =>
    rw [bare_group]
    cases hb with
    | @leaf l _ => exact iff_of_false nofun fun h => l.kind_ne_group g h.1.symm
    | @wrapper w child _ _ =>
      rw [bare_wrapper]
      exact iff_of_false nofun fun h => w.kind_ne_group g h.1.symm
    | @group g' children' hchildren' =>
      rw [bare_group, group.injEq]
      refine ⟨fun h => ?_, fun h => ⟨(Group.traits_iff h.1).mp h.2.1, h.2.2⟩⟩
      have hkind : g.kind = g'.kind := congrArg Group.kind h.1
      exact ⟨hkind, (Group.traits_iff hkind).mpr h.1, h.2⟩

theorem summary_iff {a b : Widget} (ha : a.Proper) (hb : b.Proper) :
    a.summaryWithoutValues.Equal b.summaryWithoutValues ↔ a.bare = b.bare := by
  -- By induction on the first tree: the children of the two are compared first.
  have hbelow : List.Forall₂ Json.Equal (a.children.map summaryWithoutValues)
      (b.children.map summaryWithoutValues) ↔ a.children.map bare = b.children.map bare :=
    Json.forall₂_map fun c hc d hd => summary_iff (ha.children c hc) (hb.children d hd)
  rw [summaryWithoutValues_eq, summaryWithoutValues_eq,
    equal_entry a.nodup_names names_eq, hbelow, bare_iff ha hb]
termination_by sizeOf a
decreasing_by
  exact sizeOf_child_lt hc

end Widget

end ServerUi
