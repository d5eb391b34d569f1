import ServerUi.Image.Loader
import ServerUi.Proofs.Builder.Kinds

/-! The log of the standard builders and of the loader of a folder. Whatever they report is about
values of fields and about images; what becomes of a node is reported around its builder. -/

namespace ServerUi

/-- Written by rendering itself, neither by a builder nor by a loader. -/
def Notice.ofRendering : Notice → Bool
  | node .. | builderTraceback | childSkipped .. | childIgnored .. => true
  | _ => false

/-- Writes nothing that rendering writes itself. -/
def Report.Plain (r : Report α) : Prop := ∀ n ∈ r.notices, n.ofRendering = false

namespace Report.Plain

theorem pure (a : α) : (Pure.pure a : Report α).Plain := fun _ h => absurd h List.not_mem_nil

theorem ofExcept (outcome : Except Fault α) : (Report.ofExcept outcome).Plain :=
  fun _ h => absurd h List.not_mem_nil

theorem note {n : Notice} (h : n.ofRendering = false) : (Report.note n).Plain := by
  intro m hm
  obtain rfl := List.mem_singleton.mp hm
  exact h

theorem without {n : Notice} (h : n.ofRendering = false) :
    (Report.without n : Report (Option α)).Plain := by
  intro m hm
  obtain rfl := List.mem_singleton.mp hm
  exact h

theorem bind {r : Report α} {f : α → Report β} (hr : r.Plain) (hf : ∀ a, (f a).Plain) :
    (r >>= f).Plain := by
  obtain ⟨notices, outcome⟩ := r
  intro n hn
  rw [Report.bind_mk] at hn
  cases outcome with
  | error fault => exact hr n hn
  | ok a =>
    rcases List.mem_append.mp hn with hfirst | hsecond
    · exact hr n hfirst
    · exact hf a n hsecond

theorem map {r : Report α} (hr : r.Plain) (f : α → β) : (f <$> r).Plain := by
  rw [map_eq_pure_bind]
  exact hr.bind fun _ => .pure _

end Report.Plain

namespace Style

theorem nonnegative_plain {invalid : Json → Notice} (h : ∀ v, (invalid v).ofRendering = false)
    (v : Json) : (nonnegative invalid v).Plain := by
  cases v with
  | null => exact .pure none
  | int n =>
    rw [nonnegative]
    split
    · exact .map (.ofExcept _) some
    · exact .without (h _)
  | float x =>
    rw [nonnegative]
    split
    · exact .pure _
    · exact .without (h _)
  | _ => exact .without (h _)

theorem dimension_plain (v : Json) : (dimension v).Plain := nonnegative_plain (fun _ => rfl) v

theorem borderRadius_plain (v : Json) : (borderRadius v).Plain :=
  nonnegative_plain (fun _ => rfl) v

theorem side_plain (insets : Config) (name : String) : (side insets name).Plain := by
  unfold side
  split
  · exact .pure _
  · exact .ofExcept _
  · exact .pure _
  · exact .bind (.note rfl) fun _ => .pure _

theorem edgeInsets_plain (v : Json) : (edgeInsets v).Plain := by
  cases v with
  | null => exact .pure none
  | int n => exact .map (.ofExcept _) _
  | float x => exact .pure _
  | obj insets =>
    exact (side_plain insets "left").bind fun _ => (side_plain insets "top").bind fun _ =>
      (side_plain insets "right").bind fun _ => (side_plain insets "bottom").bind fun _ => .pure _
  | _ => exact .without rfl

theorem color_plain (v : Json) : (color v).Plain := by
  cases v with
  | null => exact .pure none
  | str s =>
    rw [color]
    split
    · split
      · exact .pure _
      · exact .without rfl
    · split
      · exact .pure _
      · exact .without rfl
  | _ => exact .without rfl

theorem choice_plain (α : Type) [Choice α] (v : Json) : (choice α v).Plain := by
  cases v with
  | null => exact .pure none
  | str s =>
    rw [choice]
    split
    · exact .pure _
    · exact .without rfl
  | _ => exact .without rfl

theorem fontWeight_plain (v : Json) : (fontWeight v).Plain := by
  cases v with
  | str s =>
    rw [fontWeight]
    split
    · exact .pure _
    · exact .without rfl
  | int n =>
    rw [fontWeight]
    split
    · exact .pure _
    · exact .without rfl
  | float x =>
    rw [fontWeight]
    split
    · exact .pure _
    · exact .without rfl
  | _ => exact .pure none

theorem attributes_plain (style : Config) : (attributes style).Plain :=
  (dimension_plain _).bind fun _ => (color_plain _).bind fun _ => (fontWeight_plain _).bind fun _ =>
    (choice_plain FontStyle _).bind fun _ => .pure _

theorem textStyle_plain (v : Json) : (textStyle v).Plain := by
  cases v with
  | null => exact .pure none
  | obj style => exact (attributes_plain style).map some
  | _ => exact .without rfl

end Style

open Style

theorem spans_plain (items : List Json) : (Builder.spans items).Plain := by
  induction items using Builder.spans.induct with
  | case1 => exact .pure []
  | case2 span rest content htext ih =>
    rw [Builder.spans, htext]
    exact (textStyle_plain _).bind fun _ => ih.bind fun _ => .pure _
  | case3 span rest htext ih =>
    rw [Builder.spans]
    split
    · next content h => exact absurd h (htext content)
    · exact ih
  | case4 v rest hv ih =>
    cases v with
    | obj span => exact absurd rfl (hv span)
    | _ => exact ih

theorem glyph_plain (name : String) : (Builder.glyph name).Plain := by
  rw [Builder.glyph]
  split
  · exact .pure _
  · exact .bind (.note rfl) fun _ => .pure _

/-- A program whose reading is plain. -/
def Build.Plain (images : Option (ImageSource → Report Bool)) (b : Build α) : Prop :=
  (b.reading images).Plain

namespace Build.Plain

variable {images : Option (ImageSource → Report Bool)}

theorem pure (a : α) : (Pure.pure a : Build α).Plain images := Report.Plain.pure a

theorem bind {b : Build α} {f : α → Build β} (hb : b.Plain images)
    (hf : ∀ a, (f a).Plain images) : (b >>= f).Plain images := by
  rw [Build.Plain, reading_bind]
  exact Report.Plain.bind hb hf

theorem report {r : Report α} (h : r.Plain) : (liftM r : Build α).Plain images := by
  rw [Build.Plain, lift_report, reading_ofReport]
  exact h

theorem outcome (outcome : Except Fault α) : (liftM outcome : Build α).Plain images := by
  rw [lift_outcome]
  exact report (.ofExcept outcome)

theorem isLoadable (h : ∀ loader ∈ images, ∀ source, (loader source).Plain)
    (source : ImageSource) : (Build.isLoadable source).Plain images := by
  change (loading images source >>= Pure.pure).Plain
  rw [bind_pure]
  cases images with
  | none => exact .pure true
  | some loader => exact h loader rfl source

end Build.Plain

/-- Plain in all that it reports, before and behind what is rendered below its node. -/
def Form.Plain : Form → Prop
  | still reading => reading.Plain
  | field reading => reading.Plain
  | input seed => seed.Plain
  | wrapper opening => opening.Plain ∧ opening.Yields Report.Plain
  | group opening =>
    opening.Plain ∧ opening.Yields fun w => ∀ closing, w = some closing → closing.Plain

theorem Form.Plain.own {form : Form} (h : form.Plain) :
    ∀ n ∈ form.opened ++ form.closed, n.ofRendering = false := by
  intro n hn
  rcases List.mem_append.mp hn with hopened | hclosed
  · cases form with
    | wrapper opening => exact h.1 n hopened
    | group opening => exact h.1 n hopened
    | _ => exact h n hopened
  · cases form with
    | wrapper opening =>
      rw [closed] at hclosed
      split at hclosed
      · next closing hclosing => exact h.2 closing hclosing n hclosed
      · cases hclosed
    | group opening =>
      rw [closed] at hclosed
      split at hclosed
      · next closing hclosing => exact h.2 _ hclosing closing rfl n hclosed
      · cases hclosed
    | _ => cases hclosed

section Forms

variable (images : Option (ImageSource → Report Bool)) (config : Config)

theorem text_plain : (Builder.text config).Plain images := by
  refine .bind (.outcome _) fun content => ?_
  cases content with
  | none => exact .pure none
  | some content =>
    exact .bind (.report (textStyle_plain _)) fun _ =>
      .bind (.report (choice_plain TextAlign _)) fun _ => .pure _

theorem richText_plain : (Builder.richText config).Plain images := by
  refine .bind (.outcome _) fun items => ?_
  rcases items with _ | _ | ⟨item, items⟩
  · exact .pure none
  · exact .pure none
  · exact .bind (.report (spans_plain _)) fun _ =>
      .bind (.report (choice_plain TextAlign _)) fun _ => .pure _

theorem button_plain : (Builder.button config).Plain images := by
  refine .bind (.outcome _) fun content => ?_
  cases content with
  | none => exact .pure none
  | some content => exact .pure _

theorem image_plain {images : Option (ImageSource → Report Bool)}
    (h : ∀ loader ∈ images, ∀ source, (loader source).Plain) :
    (Builder.image config).Plain images := by
  refine .bind (.outcome _) fun source => ?_
  cases source with
  | none => exact .pure none
  | some source =>
    refine .bind (.report (dimension_plain _)) fun width =>
      .bind (.report (dimension_plain _)) fun height => .bind (.isLoadable h source) fun loads => ?_
    cases loads with
    | false => exact .pure _
    | true => exact .bind (.report (choice_plain BoxFit _)) fun _ => .pure _

theorem icon_plain : (Builder.icon config).Plain images := by
  refine .bind (.outcome _) fun name => ?_
  cases name with
  | none => exact .pure none
  | some name =>
    exact .bind (.report (glyph_plain name)) fun _ => .bind (.report (dimension_plain _)) fun _ =>
      .bind (.report (color_plain _)) fun _ => .pure _

theorem divider_plain : (Builder.divider config).Plain images :=
  .bind (.report (dimension_plain _)) fun _ => .bind (.report (dimension_plain _)) fun _ =>
    .bind (.report (color_plain _)) fun _ => .pure _

theorem flex_plain (axis : Axis) : (Form.group (Form.flexOpening axis config)).Plain := by
  constructor
  · refine .bind (.ofExcept _) fun items => ?_
    cases items <;> exact .pure _
  · refine .bind fun items _ => ?_
    cases items with
    | none => exact .pure (by simp)
    | some items =>
      refine .pure ?_
      rintro _ ⟨⟩
      exact (choice_plain MainAlignment _).bind fun _ => (choice_plain CrossAlignment _).bind
        fun _ => .pure _

theorem listView_plain : (Form.group (Form.listOpening config)).Plain := by
  constructor
  · refine .bind (.ofExcept _) fun items => ?_
    cases items with
    | none => exact .pure none
    | some items => exact .bind (.ofExcept _) fun _ => .pure _
  · refine .bind fun items _ => ?_
    cases items with
    | none => exact .pure (by simp)
    | some items =>
      refine .bind fun shrinkWrap _ => .pure ?_
      rintro _ ⟨⟩
      exact .pure _

theorem container_plain : (Form.wrapper (Form.containerOpening config)).Plain := by
  refine ⟨.pure _, .pure ?_⟩
  exact (dimension_plain _).bind fun _ => (dimension_plain _).bind fun _ =>
    (edgeInsets_plain _).bind fun _ => (edgeInsets_plain _).bind fun _ =>
    (color_plain _).bind fun _ => (borderRadius_plain _).bind fun _ => .pure _

theorem center_plain : (Form.wrapper Form.centerOpening).Plain := ⟨.pure _, .pure (.pure _)⟩

theorem sizedBox_plain : (Form.wrapper (Form.sizedBoxOpening config)).Plain := by
  refine ⟨.pure _, .pure ?_⟩
  exact (dimension_plain _).bind fun _ => (dimension_plain _).bind fun _ => .pure _

theorem card_plain : (Form.wrapper (Form.cardOpening config)).Plain := by
  refine ⟨?_, .bind fun _ _ => .bind fun _ _ => .bind fun _ _ => .pure (.pure _)⟩
  exact .bind (.ofExcept _) fun _ => (edgeInsets_plain _).bind fun _ =>
    (edgeInsets_plain _).bind fun _ => .pure _

theorem textField_plain : (Form.textFieldReading config).Plain :=
  .bind (.ofExcept _) fun _ => .bind (.ofExcept _) fun _ => .pure _

theorem checkbox_plain : (Form.checkboxSeed config).Plain :=
  .bind (.ofExcept _) fun _ => .bind (.ofExcept _) fun _ => .pure _

theorem dropdown_plain : (Form.dropdownSeed config).Plain := by
  refine .bind (.ofExcept _) fun items => ?_
  rcases items with _ | _ | ⟨item, items⟩
  · exact .pure none
  · exact .pure none
  · exact .bind (.ofExcept _) fun _ => .pure _

end Forms

theorem ofTag?_plain {images : Option (ImageSource → Report Bool)}
    (himages : ∀ loader ∈ images, ∀ source, (loader source).Plain) {tag : String} {config : Config}
    {form : Form} (h : Form.ofTag? images tag config = some form) : form.Plain := by
  apply ofTag?_cases (motive := fun _ form => form.Plain) (h := h)
  case column => exact flex_plain config .vertical
  case row => exact flex_plain config .horizontal
  case listView => exact listView_plain config
  case container => exact container_plain config
  case center => exact center_plain
  case sizedBox => exact sizedBox_plain config
  case card => exact card_plain config
  case textField => exact textField_plain config
  case checkbox => exact checkbox_plain config
  case dropdown => exact dropdown_plain config
  case text => exact text_plain images config
  case richText => exact richText_plain images config
  case button => exact button_plain images config
  case image => exact image_plain config himages
  case icon => exact icon_plain images config
  case divider => exact divider_plain images config

theorem AssetFolder.loader_plain (folder : AssetFolder) (source : ImageSource) :
    (folder.loader source).Plain := by
  refine .bind (.ofExcept _) fun ok => ?_
  cases ok with
  | true => exact .pure true
  | false => exact .bind (.note rfl) fun _ => .pure false

end ServerUi
