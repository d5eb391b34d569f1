import ServerUi.Proofs.Style.Names
import ServerUi.Proofs.Widget.Written

/-! What is written for two values of a field is equal exactly if the values are the same for a
comparison, as long as there is no NaN in them and colours have 32 bits. Neither leaving out defaults
nor writing colours as text loses anything. -/

namespace ServerUi

namespace Json

theorem equal_number {x y : Double} (hx : x ≠ .nan) :
    Equal (.float x) (.float y) ↔ x.unsigned = y.unsigned :=
  equal_float.trans (Double.sameNumber_iff hx)

theorem rel_number {o o' : Option Double} (h : ∀ x ∈ o, x ≠ .nan) :
    Option.Rel Equal (o.map .float) (o'.map .float) ↔
      o.map Double.unsigned = o'.map Double.unsigned :=
  rel_map fun x hx _ _ => equal_number (h x hx)

/-- What is written differently for different values is written for an option like that too. -/
theorem rel_injective {α : Type} {enc : α → Json} (h : ∀ a b, Equal (enc a) (enc b) ↔ a = b)
    {o o' : Option α} : Option.Rel Equal (o.map enc) (o'.map enc) ↔ o = o' := by
  have hid : Option.Rel Equal (o.map enc) (o'.map enc) ↔ o.map id = o'.map id :=
    rel_map fun a _ b _ => h a b
  rwa [Option.map_id_fun, id, id] at hid

/-- Leaving out a default value loses nothing. -/
theorem rel_unless {β : Type} {p q : Prop} [Decidable p] [Decidable q] {v u : Json}
    {x y default : β} (hp : p ↔ x = default) (hq : q ↔ y = default) (h : Equal v u ↔ x = y) :
    Option.Rel Equal (if p then none else some v) (if q then none else some u) ↔ x = y := by
  by_cases hx : p
  · rw [if_pos hx]
    by_cases hy : q
    · rw [if_pos hy]
      exact iff_of_true .none ((hp.mp hx).trans (hq.mp hy).symm)
    · rw [if_neg hy]
      refine iff_of_false nofun fun heq => hy ?_
      exact hq.mpr (heq.symm.trans (hp.mp hx))
  · rw [if_neg hx]
    by_cases hy : q
    · rw [if_pos hy]
      refine iff_of_false nofun fun heq => hx ?_
      exact hp.mpr (heq.trans (hq.mp hy))
    · rw [if_neg hy, Option.rel_some_some, h]

theorem unlessDefault_inj {α : Type} [DecidableEq α] (default a b : α) :
    unlessDefault default a = unlessDefault default b ↔ a = b := by
  rw [unlessDefault, unlessDefault]
  by_cases ha : a = default
  · rw [if_pos ha, ha]
    by_cases hb : b = default
    · simp [hb]
    · rw [if_neg hb]
      exact iff_of_false nofun (Ne.symm hb)
  · rw [if_neg ha]
    by_cases hb : b = default
    · rw [if_pos hb, hb]
      exact iff_of_false nofun ha
    · rw [if_neg hb, Option.some.injEq]

theorem rel_unlessNumber (default : Double) {x y : Double} (hx : x ≠ .nan) (hy : y ≠ .nan) :
    Option.Rel Equal (unlessNumber default x) (unlessNumber default y) ↔
      x.unsigned = y.unsigned :=
  rel_unless (Double.sameNumber_iff hx) (Double.sameNumber_iff hy) (equal_number hx)

theorem equal_choice {α : Type} [Choice α] [LawfulChoice α] (a b : α) :
    Equal (choiceJson a) (choiceJson b) ↔ a = b := by
  rw [choiceJson, choiceJson, equal_str]
  exact ⟨Choice.name_injective, congrArg _⟩

theorem equal_color {c d : Option Color} (hc : ∀ e ∈ c, e.InRange) (hd : ∀ e ∈ d, e.InRange) :
    Equal (colorJson c) (colorJson d) ↔ c = d := by
  cases c with
  | none =>
    cases d with
    | none => exact iff_of_true .null rfl
    | some d => exact iff_of_false nofun nofun
  | some c =>
    cases d with
    | none => exact iff_of_false nofun nofun
    | some d =>
      refine equal_str.trans ⟨fun h => ?_, fun h => ?_⟩
      · exact congrArg some (Color.text_injective (hc c rfl) (hd d rfl) h)
      · exact congrArg Color.text (Option.some.inj h)

theorem equal_singleton (name : String) (v u : Json) :
    Equal (.obj [(name, v)]) (.obj [(name, u)]) ↔ Equal v u := by
  have h := equal_present [(name, some v)] [(name, some u)] rfl (by simp)
  simp only [fieldsEqual_cons, fieldsEqual_nil, and_true, Option.rel_some_some] at h
  exact h

theorem equal_argb (c d : Color) : Equal c.json d.json ↔ c = d := by
  rw [Color.json, Color.json, equal_singleton, equal_int, Color.mk.injEq]

theorem equal_radius {x y : Double} (hx : x ≠ .nan) :
    Equal (radiusJson x) (radiusJson y) ↔ x.unsigned = y.unsigned := by
  rw [radiusJson, radiusJson, equal_singleton, equal_number hx]

theorem equal_weight (w v : FontWeight) : Equal w.json v.json ↔ w = v := by
  rw [FontWeight.json, FontWeight.json, equal_int]
  constructor
  · intro h
    have hvalue : w.value = v.value := Int.ofNat.inj h
    unfold FontWeight.value at hvalue
    have hstep : w.step = v.step := Fin.ext (by omega)
    cases w
    cases v
    exact congrArg FontWeight.mk hstep
  · rintro rfl
    rfl

theorem equal_source (s t : ImageSource) : Equal s.json t.json ↔ s = t := by
  have h := equal_present
    [("kind", some (.str s.kind)), ("location", some (.str s.location))]
    [("kind", some (.str t.kind)), ("location", some (.str t.location))] rfl (by simp)
  simp only [fieldsEqual_cons, fieldsEqual_nil, and_true, Option.rel_some_some, equal_str] at h
  cases s
  cases t
  rw [ImageSource.mk.injEq]
  exact h

end Json

section Values

open Json

structure EdgeInsets.Sound (P : Double → Prop) (e : EdgeInsets) : Prop where
  left : P e.left
  top : P e.top
  right : P e.right
  bottom : P e.bottom

theorem EdgeInsets.Sound.all {P : Double → Prop} {x : Double} (h : P x) :
    (EdgeInsets.all x).Sound P := ⟨h, h, h, h⟩

theorem equal_insets {e f : EdgeInsets} (he : e.Sound (· ≠ .nan)) (hf : f.Sound (· ≠ .nan)) :
    Equal (.obj e.summary) (.obj f.summary) ↔ e.unsigned = f.unsigned := by
  rw [EdgeInsets.summary_eq, EdgeInsets.summary_eq,
    equal_present e.traits f.traits rfl (by simp [EdgeInsets.traits])]
  simp only [EdgeInsets.traits, fieldsEqual_cons, fieldsEqual_nil, and_true, EdgeInsets.unsigned,
    EdgeInsets.mk.injEq, rel_unlessNumber _ he.left hf.left, rel_unlessNumber _ he.top hf.top,
    rel_unlessNumber _ he.right hf.right, rel_unlessNumber _ he.bottom hf.bottom]

theorem sameNumbers_iff {e : EdgeInsets} (he : e.Sound (· ≠ .nan)) (f : EdgeInsets) :
    e.sameNumbers f = true ↔ e.unsigned = f.unsigned := by
  simp only [EdgeInsets.sameNumbers, Bool.and_eq_true, Double.sameNumber_iff he.left,
    Double.sameNumber_iff he.top, Double.sameNumber_iff he.right, Double.sameNumber_iff he.bottom,
    EdgeInsets.unsigned, EdgeInsets.mk.injEq, and_assoc]

theorem rel_insets {o o' : Option EdgeInsets} (h : ∀ e ∈ o, e.Sound (· ≠ .nan))
    (h' : ∀ e ∈ o', e.Sound (· ≠ .nan)) :
    Option.Rel Equal (o.map fun e => .obj e.summary) (o'.map fun e => .obj e.summary) ↔
      o.map EdgeInsets.unsigned = o'.map EdgeInsets.unsigned :=
  rel_map fun e he f hf => equal_insets (h e he) (h' f hf)

structure TextStyle.Sound (P : Double → Prop) (s : TextStyle) : Prop where
  size : ∀ x ∈ s.size, P x
  color : ∀ c ∈ s.color, c.InRange

theorem equal_style {s t : TextStyle} (hs : s.Sound (· ≠ .nan)) :
    Equal (.obj s.summary) (.obj t.summary) ↔ s.unsigned = t.unsigned := by
  rw [TextStyle.summary_eq, TextStyle.summary_eq,
    equal_present s.traits t.traits rfl (by simp [TextStyle.traits])]
  simp only [TextStyle.traits, fieldsEqual_cons, fieldsEqual_nil, and_true, rel_number hs.size,
    rel_injective equal_argb, rel_injective equal_weight, rel_injective equal_choice,
    TextStyle.unsigned, TextStyle.mk.injEq]

theorem rel_style {o o' : Option TextStyle} (h : ∀ s ∈ o, s.Sound (· ≠ .nan)) :
    Option.Rel Equal (o.map fun s => .obj s.summary) (o'.map fun s => .obj s.summary) ↔
      o.map TextStyle.unsigned = o'.map TextStyle.unsigned :=
  rel_map fun s hs _ _ => equal_style (h s hs)

def TextSpan.Sound (P : Double → Prop) (s : TextSpan) : Prop := ∀ t ∈ s.style, t.Sound P

theorem equal_span {s t : TextSpan} (hs : s.Sound (· ≠ .nan)) :
    Equal s.summary t.summary ↔ s.unsigned = t.unsigned := by
  rw [TextSpan.summary_eq, TextSpan.summary_eq,
    equal_present s.traits t.traits rfl (by simp [TextSpan.traits])]
  simp only [TextSpan.traits, fieldsEqual_cons, fieldsEqual_nil, and_true, Option.rel_some_some,
    equal_str, rel_style hs, TextSpan.unsigned, TextSpan.mk.injEq]

theorem rel_spans {spans others : List TextSpan} (h : ∀ s ∈ spans, s.Sound (· ≠ .nan)) :
    Option.Rel Equal (if spans.isEmpty then none else some (.arr (spans.map TextSpan.summary)))
        (if others.isEmpty then none else some (.arr (others.map TextSpan.summary))) ↔
      spans.map TextSpan.unsigned = others.map TextSpan.unsigned := by
  have hempty (ss : List TextSpan) : ss.isEmpty = true ↔ ss.map TextSpan.unsigned = [] := by
    rw [List.isEmpty_iff, List.map_eq_nil_iff]
  refine rel_unless (hempty spans) (hempty others) (equal_arr.trans ?_)
  exact forall₂_map fun s hs t _ => equal_span (h s hs)

/-- The plain text of spans hangs on what is compared of them. -/
theorem plainText_unsigned (spans : List TextSpan) :
    plainText (spans.map TextSpan.unsigned) = plainText spans := by
  rw [plainText, plainText, List.map_map]
  rfl

theorem rel_options (options others : List String) :
    Option.Rel Equal (if options.isEmpty then none else some (.arr (options.map .str)))
        (if others.isEmpty then none else some (.arr (others.map .str))) ↔ options = others := by
  refine rel_unless List.isEmpty_iff List.isEmpty_iff (equal_arr.trans ?_)
  have hid : List.Forall₂ Equal (options.map .str) (others.map .str) ↔
      options.map id = others.map id := forall₂_map fun s _ t _ => equal_str
  rwa [List.map_id, List.map_id] at hid

structure ErrorFrame.Sound (P : Double → Prop) (frame : ErrorFrame) : Prop where
  padding : frame.padding.Sound P
  border : frame.border.InRange
  radius : P frame.radius
  iconSize : P frame.iconSize
  fontSize : P frame.fontSize

theorem rel_frame {frame frame' : ErrorFrame} (h : frame.Sound (· ≠ .nan))
    (h' : frame'.Sound (· ≠ .nan)) :
    FieldsEqual frame.traits frame'.traits ↔ frame.unsigned = frame'.unsigned := by
  have hpadding := rel_unless (sameNumbers_iff h.padding ErrorFrame.standard.padding)
    (sameNumbers_iff h'.padding _) (equal_insets h.padding h'.padding)
  have hborder : Equal (.str frame.border.text) (.str frame'.border.text) ↔
      frame.border = frame'.border := by
    rw [equal_str]
    exact ⟨Color.text_injective h.border h'.border, congrArg _⟩
  have hradius := rel_unless (Double.sameNumber_iff (y := ErrorFrame.standard.radius) h.radius)
    (Double.sameNumber_iff h'.radius) (equal_radius h.radius)
  simp only [ErrorFrame.traits, fieldsEqual_cons, fieldsEqual_nil, and_true,
    Option.rel_some_some, hpadding, hborder, hradius,
    rel_unlessNumber _ h.iconSize h'.iconSize, rel_unlessNumber _ h.fontSize h'.fontSize,
    ErrorFrame.unsigned, ErrorFrame.mk.injEq]

theorem placeholder_unsigned (width height : Option Double) :
    (Placeholder.ofSize width height).unsigned =
      ⟨(width.map Double.unsigned).getD (Double.ofNat 100).unsigned,
        (height.map Double.unsigned).getD (Double.ofNat 100).unsigned⟩ := by
  rw [Option.getD_map, Option.getD_map]
  rfl

end Values

end ServerUi
