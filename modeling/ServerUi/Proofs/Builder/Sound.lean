import ServerUi.Proofs.Builder.Kinds
import ServerUi.Proofs.Json.Doubles
import ServerUi.Proofs.Number.Whole
import ServerUi.Proofs.Widget.Faithful

/-! What the standard builders make of a document. A property that all its doubles have, and all
finite ones, is one of the numbers in a widget; colours have 32 bits, and an image comes with a box
of its own size. -/

namespace ServerUi

theorem Double.isFinite_of_ofInt? {n : Int} {x : Double} (h : ofInt? n = some x) : x.IsFinite := by
  obtain ⟨hshort, hsmall, rfl⟩ := eq_finite_of_ofInt? h
  exact .finite _ hshort hsmall

theorem Double.isFinite_ofNat {n : Nat} (h : ofNat n ≠ nan) : (ofNat n).IsFinite := by
  rw [ofNat] at h ⊢
  cases hx : ofInt? n with
  | none =>
    rw [hx] at h
    exact absurd rfl h
  | some x => exact isFinite_of_ofInt? hx

theorem wholeToDouble_finite {n : Int} {x : Double} (h : wholeToDouble n = .ok x) :
    x.IsFinite := by
  rw [wholeToDouble] at h
  cases hn : Double.ofInt? n with
  | none =>
    rw [hn] at h
    cases h
  | some y =>
    rw [hn] at h
    cases h
    exact Double.isFinite_of_ofInt? hn

namespace Style

theorem hexColor?_inRange {cs : List Char} {c : Color} (h : hexColor? cs = some c) : c.InRange := by
  unfold hexColor? at h
  split at h
  · split at h
    · obtain ⟨n, hn, rfl⟩ := Option.map_eq_some_iff.mp h
      have hlt : n < 16 ^ 6 := hexNumber?_lt hn
      exact Color.opaqueRgb_inRange (by omega)
    · cases h
  · cases h

theorem color_inRange (v : Json) : (color v).Yields fun o => ∀ c ∈ o, c.InRange := by
  cases v with
  | null => exact .pure (by simp)
  | str s =>
    rw [color]
    split
    · split
      · next c hc =>
        refine .pure ?_
        rintro _ ⟨⟩
        exact hexColor?_inRange hc
      · exact .without _ (by simp)
    · split
      · next c hc =>
        refine .pure ?_
        rintro _ ⟨⟩
        exact Color.palette_inRange _ (mem_of_lookup hc)
      · exact .without _ (by simp)
  | _ => exact .without _ (by simp)

end Style

theorem Color.ofErrors_inRange : ofErrors.InRange := by
  unfold InRange
  decide

theorem Color.ofPlaceholders_inRange : ofPlaceholders.InRange := by
  unfold InRange
  decide

theorem getD_of_forall {α : Type} {P : α → Prop} {o : Option α} {default : α}
    (h : ∀ a ∈ o, P a) (hdefault : P default) : P (o.getD default) := by
  cases o with
  | none => exact hdefault
  | some a => exact h a rfl

section Sound

variable {P : Double → Prop} (hP : ∀ x : Double, x.IsFinite → P x)

include hP

theorem wholeToDouble_sound (n : Int) : (Report.ofExcept (wholeToDouble n)).Yields P :=
  .ofExcept fun x hx => hP x (wholeToDouble_finite hx)

theorem ofNat_sound (n : Nat) (h : Double.ofNat n ≠ .nan) : P (.ofNat n) :=
  hP _ (Double.isFinite_ofNat h)

namespace Style

theorem nonnegative_sound (invalid : Json → Notice) {v : Json} (h : v.Doubles P) :
    (nonnegative invalid v).Yields fun o => ∀ x ∈ o, P x := by
  cases v with
  | null => exact .pure (by simp)
  | int n =>
    rw [nonnegative]
    split
    · refine .map fun x hx => ?_
      rintro _ ⟨⟩
      exact wholeToDouble_sound hP n x hx
    · exact .without _ (by simp)
  | float x =>
    rw [nonnegative]
    split
    · refine .pure ?_
      rintro _ ⟨⟩
      exact h.float
    · exact .without _ (by simp)
  | _ => exact .without _ (by simp)

theorem side_sound {insets : Config} (h : (Json.obj insets).Doubles P) (name : String) :
    (side insets name).Yields P := by
  have hget := h.get name
  have hzero : P .zero := hP .zero (.finite _ short_zero unitsLimit_pos)
  unfold side
  cases hv : insets.get name with
  | null => exact .pure hzero
  | int n => exact wholeToDouble_sound hP n
  | float x =>
    rw [hv] at hget
    exact .pure hget.float
  | _ => exact .bind fun _ _ => .pure hzero

theorem edgeInsets_sound {v : Json} (h : v.Doubles P) :
    (edgeInsets v).Yields fun o => ∀ e ∈ o, e.Sound P := by
  cases v with
  | null => exact .pure (by simp)
  | int n =>
    refine .map fun x hx => ?_
    have hsound := wholeToDouble_sound hP n x hx
    rintro _ ⟨⟩
    exact .all hsound
  | float x =>
    refine .pure ?_
    rintro _ ⟨⟩
    exact .all h.float
  | obj insets =>
    refine .bind fun left hleft => .bind fun top htop => .bind fun right hright =>
      .bind fun bottom hbottom => .pure ?_
    rintro _ ⟨⟩
    exact ⟨side_sound hP h _ _ hleft, side_sound hP h _ _ htop, side_sound hP h _ _ hright,
      side_sound hP h _ _ hbottom⟩
  | _ => exact .without _ (by simp)

theorem textStyle_sound {v : Json} (h : v.Doubles P) :
    (textStyle v).Yields fun o => ∀ s ∈ o, s.Sound P := by
  cases v with
  | null => exact .pure (by simp)
  | obj style =>
    have hattributes : (attributes style).Yields (TextStyle.Sound P) := by
      refine .bind fun size hsize => .bind fun color hcolor => .bind fun weight _ =>
        .bind fun slant _ => .pure ?_
      exact ⟨nonnegative_sound hP _ (h.get _) _ hsize, color_inRange _ _ hcolor⟩
    refine .map fun s hs => ?_
    rintro _ ⟨⟩
    exact hattributes s hs
  | _ => exact .without _ (by simp)

end Style

theorem number_sound {config : Config} (h : (Json.obj config).Doubles P) (key : String) :
    (Report.ofExcept (config.number key)).Yields fun o => ∀ x ∈ o, P x := by
  have hget := h.get key
  refine .ofExcept fun o ho => ?_
  rw [Config.number] at ho
  cases hv : config.get key with
  | null =>
    rw [hv] at ho
    cases ho
    simp
  | int n =>
    rw [hv] at ho
    change some <$> wholeToDouble n = .ok o at ho
    cases hx : wholeToDouble n with
    | error fault =>
      rw [hx] at ho
      cases ho
    | ok x =>
      rw [hx] at ho
      cases ho
      rintro _ ⟨⟩
      exact hP x (wholeToDouble_finite hx)
  | float x =>
    rw [hv] at ho hget
    cases ho
    rintro _ ⟨⟩
    exact hget.float
  | _ =>
    rw [hv] at ho
    cases ho

theorem spans_sound {items : List Json} (h : ∀ v ∈ items, v.Doubles P) :
    (Builder.spans items).Yields fun found => ∀ s ∈ found, s.Sound P := by
  induction items using Builder.spans.induct with
  | case1 => exact .pure (by simp)
  | case2 span rest content hcontent ih =>
    obtain ⟨hspan, hrest⟩ := List.forall_mem_cons.mp h
    rw [Builder.spans, hcontent]
    refine .bind fun style hstyle => .bind fun found hfound => .pure ?_
    exact List.forall_mem_cons.mpr
      ⟨Style.textStyle_sound hP (hspan.get _) _ hstyle, ih hrest _ hfound⟩
  | case3 span rest hcontent ih =>
    rw [Builder.spans]
    split
    · next content h => exact absurd h (hcontent content)
    · exact ih (List.forall_mem_cons.mp h).2
  | case4 v rest hv ih =>
    rw [Builder.spans]
    · exact ih (List.forall_mem_cons.mp h).2
    · exact hv

omit hP in
theorem array_sound {config : Config} (h : (Json.obj config).Doubles P) {key : String}
    {items : List Json} (hitems : config.array key = .ok (some items)) :
    ∀ v ∈ items, v.Doubles P := by
  have hget := h.get key
  rw [Config.array] at hitems
  cases hv : config.get key with
  | arr found =>
    rw [hv] at hitems hget
    cases hitems
    exact hget.arr
  | _ =>
    rw [hv] at hitems
    cases hitems

def Content.Sound (P : Double → Prop) : Content → Prop
  | still w => w.Sound P
  | wrapper outer inner => outer.Sound P ∧ ∀ w ∈ inner, w.Sound P
  | _ => True

section Builders

variable (images : Option (ImageSource → Report Bool)) (config : Config)

open Style

omit hP in
theorem button_sound :
    (Form.still ((Builder.button config).reading images)).Yields (Content.Sound P) := by
  refine Form.yields_still (.bind fun content _ => ?_)
  cases content with
  | none => exact .pure (by simp)
  | some content =>
    refine .pure ?_
    rintro _ ⟨⟩
    exact .leaf trivial

theorem placeholder_sound {width height : Option Double} (hwidth : ∀ x ∈ width, P x)
    (hheight : ∀ x ∈ height, P x) : (Placeholder.ofSize width height).widget.Sound P := by
  have hdefault : P (.ofNat 100) := ofNat_sound hP 100 (by decide +kernel)
  refine .wrapper ⟨?_, ?_, by simp, by simp, ?_, by simp⟩ ?_
  · rintro _ ⟨⟩
    exact getD_of_forall hwidth hdefault
  · rintro _ ⟨⟩
    exact getD_of_forall hheight hdefault
  · rintro _ ⟨⟩
    exact Color.ofPlaceholders_inRange
  · rintro _ ⟨⟩
    refine .leaf ⟨by simp, ?_⟩
    rintro _ ⟨⟩
    exact Color.ofErrors_inRange

variable {config} (h : (Json.obj config).Doubles P)

include h

theorem text_sound :
    (Form.still ((Builder.text config).reading images)).Yields (Content.Sound P) := by
  refine Form.yields_still (.bind fun content _ => ?_)
  cases content with
  | none => exact .pure (by simp)
  | some content =>
    refine .read (textStyle_sound hP (h.get _)) fun style hstyle => .bind fun align _ => .pure ?_
    rintro _ ⟨⟩
    exact .leaf hstyle

theorem richText_sound :
    (Form.still ((Builder.richText config).reading images)).Yields (Content.Sound P) := by
  refine Form.yields_still (.bind fun items hitems => ?_)
  -- The items are values of the document, so what holds of its doubles holds of theirs.
  rw [Build.lift_outcome, Build.reading_ofReport] at hitems
  rcases items with _ | _ | ⟨item, items⟩
  · exact .pure (by simp)
  · exact .pure (by simp)
  · have hspans := spans_sound hP (array_sound h hitems)
    refine .read hspans fun found hfound => .bind fun align _ => .pure ?_
    rintro _ ⟨⟩
    exact .leaf hfound

theorem icon_sound :
    (Form.still ((Builder.icon config).reading images)).Yields (Content.Sound P) := by
  refine Form.yields_still (.bind fun name _ => ?_)
  cases name with
  | none => exact .pure (by simp)
  | some name =>
    refine .bind fun glyph _ => .read (nonnegative_sound hP _ (h.get _)) fun size hsize =>
      .read (color_inRange _) fun color hcolor => .pure ?_
    rintro _ ⟨⟩
    exact .leaf ⟨hsize, hcolor⟩

theorem divider_sound :
    (Form.still ((Builder.divider config).reading images)).Yields (Content.Sound P) := by
  refine Form.yields_still (.read (nonnegative_sound hP _ (h.get _)) fun height hheight =>
    .read (nonnegative_sound hP _ (h.get _)) fun thickness hthickness =>
    .read (color_inRange _) fun color hcolor => .pure ?_)
  rintro _ ⟨⟩
  exact .leaf ⟨hheight, hthickness, hcolor⟩

theorem image_sound :
    (Form.still ((Builder.image config).reading images)).Yields (Content.Sound P) := by
  refine Form.yields_still (.bind fun source _ => ?_)
  cases source with
  | none => exact .pure (by simp)
  | some source =>
    refine .read (nonnegative_sound hP _ (h.get _)) fun width hwidth =>
      .read (nonnegative_sound hP _ (h.get _)) fun height hheight => .bind fun loads _ => ?_
    cases loads with
    | false =>
      refine .pure ?_
      rintro _ ⟨⟩
      exact placeholder_sound hP hwidth hheight
    | true =>
      refine .bind fun fit _ => .pure ?_
      rintro _ ⟨⟩
      exact .leaf ⟨hwidth, hheight, rfl⟩

theorem container_sound :
    (Form.wrapper (Form.containerOpening config)).Yields (Content.Sound P) := by
  refine Form.yields_wrapper <| .pure <| .bind fun width hwidth => .bind fun height hheight =>
    .bind fun padding hpadding => .bind fun margin hmargin => .bind fun color hcolor =>
    .bind fun radius hradius => .pure ⟨?_, by simp⟩
  exact ⟨nonnegative_sound hP _ (h.get _) _ hwidth, nonnegative_sound hP _ (h.get _) _ hheight,
    edgeInsets_sound hP (h.get _) _ hpadding, edgeInsets_sound hP (h.get _) _ hmargin,
    color_inRange _ _ hcolor, nonnegative_sound hP _ (h.get _) _ hradius⟩

theorem card_sound : (Form.wrapper (Form.cardOpening config)).Yields (Content.Sound P) := by
  have hone : P (.ofNat 1) := ofNat_sound hP 1 (by decide +kernel)
  have height : P (.ofNat 8) := ofNat_sound hP 8 (by decide +kernel)
  refine Form.yields_wrapper <| .bind fun elevation helevation => .bind fun padding hpadding =>
    .bind fun margin hmargin => .pure (.pure ⟨⟨?_, ?_⟩, ?_⟩)
  · exact getD_of_forall (number_sound hP h "elevation" _ helevation) hone
  · exact edgeInsets_sound hP (h.get _) _ hmargin
  · rw [List.forall_mem_singleton]
    exact getD_of_forall (edgeInsets_sound hP (h.get _) _ hpadding) (.all height)

theorem sizedBox_sound :
    (Form.wrapper (Form.sizedBoxOpening config)).Yields (Content.Sound P) := by
  refine Form.yields_wrapper <| .pure <| .bind fun width hwidth => .bind fun height hheight =>
    .pure ⟨?_, by simp⟩
  exact ⟨nonnegative_sound hP _ (h.get _) _ hwidth, nonnegative_sound hP _ (h.get _) _ hheight⟩

omit hP h in
theorem center_sound : (Form.wrapper Form.centerOpening).Yields (Content.Sound P) :=
  Form.yields_wrapper (.pure (.pure ⟨trivial, by simp⟩))

end Builders

/-- What a node of a form comes to. -/
theorem ofTag?_sound {images : Option (ImageSource → Report Bool)} {tag : String} {config : Config}
    {form : Form} (h : (Json.obj config).Doubles P)
    (hform : Form.ofTag? images tag config = some form) : form.Yields (Content.Sound P) := by
  have hgroup (opening : Report (Option (Report Group))) :
      (Form.group opening).Yields (Content.Sound P) :=
    Form.yields_group fun closing _ c _ g _ => trivial
  have hinput (seed : Report (Option Seed)) : (Form.input seed).Yields (Content.Sound P) :=
    Form.yields_input fun closing _ c _ => trivial
  apply ofTag?_cases (motive := fun _ form => form.Yields (Content.Sound P)) (h := hform)
  case column | row | listView => exact hgroup _
  case container => exact container_sound hP h
  case center => exact center_sound
  case sizedBox => exact sizedBox_sound hP h
  case card => exact card_sound hP h
  case textField =>
    intro c hc
    rw [Form.content] at hc
    cases hr : (Form.textFieldReading config).outcome <;> rw [hr] at hc <;> cases hc
    trivial
  case checkbox | dropdown => exact hinput _
  case text => exact text_sound hP images h
  case richText => exact richText_sound hP images h
  case button => exact button_sound images config
  case image => exact image_sound hP images h
  case icon => exact icon_sound hP images h
  case divider => exact divider_sound hP images h

theorem error_sound (message : String) : (Widget.error message).Sound P := by
  have hpadding : P (.ofNat 8) := ofNat_sound hP 8 (by decide +kernel)
  have hradius : P (.ofNat 4) := ofNat_sound hP 4 (by decide +kernel)
  have hicon : P (.ofNat 16) := ofNat_sound hP 16 (by decide +kernel)
  have hfont : P (.ofNat 12) := ofNat_sound hP 12 (by decide +kernel)
  have hframe : ErrorFrame.standard.Sound P := by
    unfold ErrorFrame.standard
    constructor <;> dsimp only
    · exact .all hpadding
    · exact Color.ofErrors_inRange
    · exact hradius
    · exact hicon
    · exact hfont
  exact .leaf hframe

end Sound

section Contents

variable {P : Double → Prop}

theorem nested_sound {inner : List Wrapper} {child : Option Widget} (h : ∀ w ∈ inner, w.Sound P)
    (hchild : ∀ c ∈ child, c.Sound P) : ∀ w ∈ nested inner child, w.Sound P := by
  induction inner with
  | nil => exact hchild
  | cons w rest ih =>
    obtain ⟨hw, hrest⟩ := List.forall_mem_cons.mp h
    rintro _ ⟨⟩
    exact .wrapper hw (ih hrest)

theorem Seed.leaf_sound {seed : Seed} {cell : Cell} (h : seed.admits cell.value = true) :
    (seed.leaf cell).Sound P := by
  cases seed with
  | checkbox label checked => trivial
  | dropdown first others label =>
    rintro _ ⟨⟩
    obtain ⟨choice, -, hchoice⟩ := exists_of_isOption h
    exact ⟨choice, hchoice⟩

theorem content_sound {c : Content} (h : c.Sound P) (key : String) {value : Seed → Json}
    {child : Option Widget} {items : List Widget}
    (hvalue : ∀ seed : Seed, seed.admits (value seed) = true) (hchild : ∀ w ∈ child, w.Sound P)
    (hitems : ∀ w ∈ items, w.Sound P) : (c.widget key value child items).Sound P := by
  cases c with
  | still w => exact h
  | field label hint => exact .leaf trivial
  | input seed => exact .leaf (Seed.leaf_sound (hvalue seed))
  | wrapper outer inner => exact .wrapper h.1 (nested_sound h.2 hchild)
  | group g => exact .group g hitems

theorem Store.admits_held (s : Store) (key : String) (seed : Seed) :
    seed.admits (s.held key seed) = true := by
  refine getD_of_forall (P := fun v => seed.admits v = true) ?_ seed.admits_initial
  exact fun v hv => (Option.filter_eq_some_iff.mp hv).2

end Contents

end ServerUi
