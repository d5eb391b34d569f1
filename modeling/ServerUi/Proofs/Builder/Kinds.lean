import ServerUi.Proofs.Builder.Standard

/-! What the standard builders build: a node's widget is of the node's own kind, but for a card,
which comes with its padding, and for an image that is refused. -/

namespace ServerUi

/-- The loader refuses the image that a node asks for. -/
def refused (images : Option (ImageSource → Report Bool)) (config : Config) : Bool :=
  match Builder.imageSource config with
  | .ok (some source) =>
    match (Build.loading images source).outcome with
    | .ok loads => !loads
    | .error _ => false
  | _ => false

/-- The contents that a node of a type can have. -/
inductive Content.Fits (refused : Bool) (tag : String) : Content → Prop where
  | leaf {l : Leaf} (hkind : l.kind = tag)
      (htag : tag ∈ ["text", "richText", "button", "icon", "divider"]) :
      Fits refused tag (.still (.leaf l))
  | image {l : Leaf} (hkind : l.kind = tag) (htag : tag = "image") (hloads : refused = false) :
      Fits refused tag (.still (.leaf l))
  | placeholder (p : Placeholder) (htag : tag = "image") (hrefused : refused = true) :
      Fits refused tag (.still p.widget)
  | field (label hint : Option String) (htag : tag = "textField") :
      Fits refused tag (.field label hint)
  | checkbox (label : Option String) (checked : Bool) (htag : tag = "checkbox") :
      Fits refused tag (.input (.checkbox label checked))
  | dropdown (first : String) (others : List String) (label : Option String)
      (htag : tag = "dropdown") : Fits refused tag (.input (.dropdown first others label))
  | single {outer : Wrapper} (hkind : outer.kind = tag)
      (htag : tag ∈ ["container", "center", "sizedBox"]) : Fits refused tag (.wrapper outer [])
  | card (elevation : Double) (margin : Option EdgeInsets) (insets : EdgeInsets)
      (htag : tag = "card") : Fits refused tag (.wrapper (.card elevation margin) [.padding insets])
  | group {g : Group} (hkind : g.kind = tag) : Fits refused tag (.group g)

namespace Content.Fits

variable {refuses : Bool} {tag : String}

theorem wrapper_mem {outer : Wrapper} {inner : List Wrapper}
    (h : (wrapper outer inner).Fits refuses tag) :
    tag ∈ ["container", "center", "sizedBox", "card"] := by
  cases h with
  | single hkind htag => exact List.mem_append_left ["card"] htag
  | card elevation margin insets htag =>
    rw [htag]
    decide

theorem group_mem {g : Group} (h : (Content.group g).Fits refuses tag) :
    tag ∈ ["column", "row", "listView"] := by
  cases h with
  | group hkind =>
    subst hkind
    rcases g with ⟨_ | _, main, cross⟩ | shrinkWrap <;> simp [Group.kind]

theorem leaf_mem {c : Content} (h : c.Fits refuses tag) :
    (∃ outer inner, c = wrapper outer inner) ∨ (∃ g, c = Content.group g) ∨
      tag ∈ ["text", "richText", "button", "icon", "divider", "image", "textField", "checkbox",
        "dropdown"] := by
  cases h with
  | leaf hkind htag => exact .inr (.inr (List.mem_append_left _ htag))
  | single hkind htag => exact .inl ⟨_, _, rfl⟩
  | card elevation margin insets htag => exact .inl ⟨_, _, rfl⟩
  | group hkind => exact .inr (.inl ⟨_, rfl⟩)
  | _ => simp_all

/-- A still content is a leaf of one of the still kinds, or stands in for an image. -/
theorem still_cases {w : Widget} (h : (Content.still w).Fits refuses tag) :
    (∃ l, w = .leaf l ∧ l.kind ∈ ["text", "richText", "button", "icon", "divider", "image"]) ∨
      ∃ p : Placeholder, w = p.widget := by
  cases h with
  | leaf hkind htag => exact .inl ⟨_, rfl, hkind ▸ List.mem_append_left ["image"] htag⟩
  | image hkind htag hloads => exact .inl ⟨_, rfl, by rw [hkind, htag]; decide⟩
  | placeholder p htag hrefused => exact .inr ⟨p, rfl⟩

theorem exists_wrapper {c : Content} (h : c.Fits refuses tag)
    (htag : tag ∈ ["container", "center", "sizedBox", "card"]) :
    ∃ outer inner, c = wrapper outer inner := by
  rcases h.leaf_mem with hw | ⟨g, rfl⟩ | hleaf
  · exact hw
  · have hg := h.group_mem
    simp only [List.mem_cons, List.not_mem_nil, or_false] at htag
    rcases htag with rfl | rfl | rfl | rfl <;> exact absurd hg (by decide)
  · simp only [List.mem_cons, List.not_mem_nil, or_false] at htag
    rcases htag with rfl | rfl | rfl | rfl <;> exact absurd hleaf (by decide)

theorem exists_group {c : Content} (h : c.Fits refuses tag)
    (htag : tag ∈ ["column", "row", "listView"]) : ∃ g, c = Content.group g := by
  rcases h.leaf_mem with ⟨outer, inner, rfl⟩ | hg | hleaf
  · have hw := h.wrapper_mem
    simp only [List.mem_cons, List.not_mem_nil, or_false] at htag
    rcases htag with rfl | rfl | rfl <;> exact absurd hw (by decide)
  · exact hg
  · simp only [List.mem_cons, List.not_mem_nil, or_false] at htag
    rcases htag with rfl | rfl | rfl <;> exact absurd hleaf (by decide)

end Content.Fits

def Form.Fits (refused : Bool) (tag : String) (form : Form) : Prop :=
  ∀ c, form.content = .ok (some c) → c.Fits refused tag

/-- Ends in a value with a property, if in any. -/
def Report.Yields (r : Report α) (P : α → Prop) : Prop := ∀ a, r.outcome = .ok a → P a

namespace Report.Yields

theorem pure {a : α} {P : α → Prop} (h : P a) : (Pure.pure a : Report α).Yields P := by
  intro b hb
  cases hb
  exact h

theorem bind {r : Report α} {f : α → Report β} {P : β → Prop}
    (h : ∀ a, r.outcome = .ok a → (f a).Yields P) : (r >>= f).Yields P := by
  intro b hb
  rw [Report.bind_outcome] at hb
  cases ha : r.outcome with
  | error fault => simp [ha, Bind.bind, Except.bind] at hb
  | ok a =>
    rw [ha] at hb
    exact h a ha b hb

theorem ofExcept {outcome : Except Fault α} {P : α → Prop} (h : ∀ a, outcome = .ok a → P a) :
    (Report.ofExcept outcome).Yields P := h

theorem map {r : Report α} {f : α → β} {P : β → Prop} (h : r.Yields fun a => P (f a)) :
    (f <$> r).Yields P := by
  rw [map_eq_pure_bind]
  exact bind fun a ha => pure (h a ha)

theorem without {P : Option α → Prop} (n : Notice) (h : P none) : (Report.without n).Yields P := by
  rintro _ ⟨⟩
  exact h

end Report.Yields

namespace Build

theorem reading_bind (images : Option (ImageSource → Report Bool)) (b : Build α)
    (f : α → Build β) :
    (b >>= f).reading images = b.reading images >>= fun a => (f a).reading images := by
  change (b.andThen f).reading images = _
  induction b with
  | done a => rfl
  | fail fault => rfl
  | loads source next ih => simp only [andThen, reading, ih, bind_assoc]
  | _ => simp_all [andThen, reading]

theorem reading_ofReport (images : Option (ImageSource → Report Bool)) (r : Report α) :
    (ofReport r).reading images = r := by
  obtain ⟨notices, outcome⟩ := r
  induction notices with
  | nil => cases outcome <;> rfl
  | cons n rest ih =>
    change (do Report.note n; (ofReport ⟨rest, outcome⟩).reading images) = _
    rw [ih]
    cases outcome <;> rfl

def Yields (images : Option (ImageSource → Report Bool)) (P : α → Prop) (b : Build α) : Prop :=
  (b.reading images).Yields P

namespace Yields

variable {images : Option (ImageSource → Report Bool)}

theorem pure {a : α} {P : α → Prop} (h : P a) : (Pure.pure a : Build α).Yields images P :=
  Report.Yields.pure h

theorem bind {b : Build α} {f : α → Build β} {P : β → Prop}
    (h : ∀ a, (b.reading images).outcome = .ok a → (f a).Yields images P) :
    (b >>= f).Yields images P := by
  rw [Yields, reading_bind]
  exact .bind h

theorem read {r : Report α} {f : α → Build β} {P : α → Prop} {Q : β → Prop} (hr : r.Yields P)
    (h : ∀ a, P a → (f a).Yields images Q) : ((liftM r : Build α) >>= f).Yields images Q := by
  refine bind fun a ha => h a (hr a ?_)
  rwa [lift_report, reading_ofReport] at ha

end Yields

end Build

/-- Comes to a content with a property, if to any. -/
def Form.Yields (form : Form) (P : Content → Prop) : Prop :=
  ∀ c, form.content = .ok (some c) → P c

namespace Form

variable {P : Content → Prop}

theorem yields_still {images : Option (ImageSource → Report Bool)} {b : Build (Option Widget)}
    (h : b.Yields images fun w => ∀ v, w = some v → P (.still v)) :
    (Form.still (b.reading images)).Yields P := by
  intro c hc
  rw [content] at hc
  rcases hr : (b.reading images).outcome with _ | _ | w <;> rw [hr] at hc <;> cases hc
  exact h _ hr w rfl

theorem yields_input {r : Report (Option Seed)}
    (h : r.Yields fun w => ∀ seed, w = some seed → P (.input seed)) :
    (Form.input r).Yields P := by
  intro c hc
  rw [content] at hc
  rcases hr : r.outcome with _ | _ | seed <;> rw [hr] at hc <;> cases hc
  exact h _ hr seed rfl

theorem yields_wrapper {r : Report (Report (Wrapper × List Wrapper))}
    (h : r.Yields fun closing => closing.Yields fun w => P (.wrapper w.1 w.2)) :
    (Form.wrapper r).Yields P := by
  intro c hc
  rw [content] at hc
  rcases hr : r.outcome with _ | ⟨notices, _ | w⟩ <;> rw [hr] at hc <;> cases hc
  exact h _ hr w rfl

theorem yields_group {r : Report (Option (Report Group))}
    (h : r.Yields fun w => ∀ closing, w = some closing → closing.Yields fun g => P (.group g)) :
    (Form.group r).Yields P := by
  intro c hc
  rw [content] at hc
  rcases hr : r.outcome with _ | _ | ⟨notices, _ | g⟩ <;> rw [hr] at hc <;> cases hc
  exact h _ hr _ rfl g rfl

end Form

section Fits

variable (images : Option (ImageSource → Report Bool)) (config : Config) (refuses : Bool)

theorem text_fits :
    (Form.still ((Builder.text config).reading images)).Fits refuses "text" := by
  refine Form.yields_still (.bind fun content _ => ?_)
  cases content with
  | none => exact .pure (by simp)
  | some content =>
    refine .bind fun style _ => .bind fun align _ => .pure ?_
    rintro _ ⟨⟩
    exact .leaf rfl (by decide)

theorem richText_fits :
    (Form.still ((Builder.richText config).reading images)).Fits refuses "richText" := by
  refine Form.yields_still (.bind fun items _ => ?_)
  rcases items with _ | _ | ⟨item, items⟩
  · exact .pure (by simp)
  · exact .pure (by simp)
  · refine .bind fun found _ => .bind fun align _ => .pure ?_
    rintro _ ⟨⟩
    exact .leaf rfl (by decide)

theorem button_fits :
    (Form.still ((Builder.button config).reading images)).Fits refuses "button" := by
  refine Form.yields_still (.bind fun content _ => ?_)
  cases content with
  | none => exact .pure (by simp)
  | some content =>
    refine .pure ?_
    rintro _ ⟨⟩
    exact .leaf rfl (by decide)

theorem icon_fits :
    (Form.still ((Builder.icon config).reading images)).Fits refuses "icon" := by
  refine Form.yields_still (.bind fun name _ => ?_)
  cases name with
  | none => exact .pure (by simp)
  | some name =>
    refine .bind fun glyph _ => .bind fun size _ => .bind fun color _ => .pure ?_
    rintro _ ⟨⟩
    exact .leaf rfl (by decide)

theorem divider_fits :
    (Form.still ((Builder.divider config).reading images)).Fits refuses "divider" := by
  refine Form.yields_still (.bind fun height _ => .bind fun thickness _ => .bind fun color _ =>
    .pure ?_)
  rintro _ ⟨⟩
  exact .leaf rfl (by decide)

theorem image_fits :
    (Form.still ((Builder.image config).reading images)).Fits (refused images config) "image" := by
  refine Form.yields_still (.bind fun source hsource => ?_)
  rw [Build.lift_outcome, Build.reading_ofReport] at hsource
  change Builder.imageSource config = .ok source at hsource
  cases source with
  | none => exact .pure (by simp)
  | some source =>
    refine .bind fun width _ => .bind fun height _ => .bind fun loads hloads => ?_
    rw [Build.isLoadable, Build.reading] at hloads
    change (Build.loading images source >>= pure).outcome = .ok loads at hloads
    rw [bind_pure] at hloads
    have hrefused : refused images config = !loads := by
      simp only [refused, hsource, hloads]
    cases loads with
    | false =>
      refine .pure ?_
      rintro _ ⟨⟩
      exact .placeholder _ rfl hrefused
    | true =>
      refine .bind fun fit _ => .pure ?_
      rintro _ ⟨⟩
      exact .image rfl rfl hrefused

theorem flex_fits (axis : Axis) :
    (Form.group (Form.flexOpening axis config)).Fits refuses
      (Group.flex axis .start .center).kind := by
  refine Form.yields_group (.bind fun items _ => ?_)
  cases items with
  | none => exact .pure (by simp)
  | some items =>
    refine .pure ?_
    rintro _ ⟨⟩
    refine .bind fun main _ => .bind fun cross _ => .pure (.group ?_)
    cases axis <;> rfl

theorem listView_fits : (Form.group (Form.listOpening config)).Fits refuses "listView" := by
  refine Form.yields_group (.bind fun items _ => ?_)
  cases items with
  | none => exact .pure (by simp)
  | some items =>
    refine .bind fun shrinkWrap _ => .pure ?_
    rintro _ ⟨⟩
    exact .pure (.group rfl)

theorem container_fits :
    (Form.wrapper (Form.containerOpening config)).Fits refuses "container" :=
  Form.yields_wrapper <| .pure <| .bind fun _ _ => .bind fun _ _ => .bind fun _ _ =>
    .bind fun _ _ => .bind fun _ _ => .bind fun _ _ => .pure (.single rfl (by decide))

theorem center_fits : (Form.wrapper Form.centerOpening).Fits refuses "center" :=
  Form.yields_wrapper (.pure (.pure (.single rfl (by decide))))

theorem sizedBox_fits : (Form.wrapper (Form.sizedBoxOpening config)).Fits refuses "sizedBox" :=
  Form.yields_wrapper <| .pure <| .bind fun _ _ => .bind fun _ _ =>
    .pure (.single rfl (by decide))

theorem card_fits : (Form.wrapper (Form.cardOpening config)).Fits refuses "card" :=
  Form.yields_wrapper <| .bind fun _ _ => .bind fun _ _ => .bind fun _ _ =>
    .pure (.pure (.card _ _ _ rfl))

theorem textField_fits : (Form.field (Form.textFieldReading config)).Fits refuses "textField" := by
  intro c hc
  rw [Form.content] at hc
  cases hr : (Form.textFieldReading config).outcome <;> rw [hr] at hc <;> cases hc
  exact .field _ _ rfl

theorem checkbox_fits : (Form.input (Form.checkboxSeed config)).Fits refuses "checkbox" := by
  refine Form.yields_input (.bind fun label _ => .bind fun initial _ => .pure ?_)
  rintro _ ⟨⟩
  exact .checkbox _ _ rfl

theorem dropdown_fits : (Form.input (Form.dropdownSeed config)).Fits refuses "dropdown" := by
  refine Form.yields_input (.bind fun items _ => ?_)
  rcases items with _ | _ | ⟨item, items⟩
  · exact .pure (by simp)
  · exact .pure (by simp)
  · refine .bind fun label _ => .pure ?_
    rintro _ ⟨⟩
    exact .dropdown _ _ _ rfl

end Fits

theorem ofTag?_fits {images : Option (ImageSource → Report Bool)} {tag : String} {config : Config}
    {form : Form} (h : Form.ofTag? images tag config = some form) :
    form.Fits (refused images config) tag := by
  apply ofTag?_cases (motive := fun tag form => form.Fits (refused images config) tag) (h := h)
  case column => exact flex_fits config _ .vertical
  case row => exact flex_fits config _ .horizontal
  case listView => exact listView_fits config _
  case container => exact container_fits config _
  case center => exact center_fits _
  case sizedBox => exact sizedBox_fits config _
  case card => exact card_fits config _
  case textField => exact textField_fits config _
  case checkbox => exact checkbox_fits config _
  case dropdown => exact dropdown_fits config _
  case text => exact text_fits images config _
  case richText => exact richText_fits images config _
  case button => exact button_fits images config _
  case image => exact image_fits images config
  case icon => exact icon_fits images config _
  case divider => exact divider_fits images config _

end ServerUi
