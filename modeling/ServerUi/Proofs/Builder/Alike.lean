import ServerUi.Proofs.Builder.Kinds
import ServerUi.Proofs.Document.Meaning

/-! The standard builders on members that read the same. What they come to is the same but for the
action that a button keeps, and a fault says the same. -/

namespace ServerUi

/-- Outcomes that are shown the same: values in a relation, or faults that say the same. -/
inductive Told (R : α → α → Prop) : Except Fault α → Except Fault α → Prop where
  | ok {a a' : α} (h : R a a') : Told R (.ok a) (.ok a')
  | error {e e' : Fault} (h : e.details = e'.details) : Told R (.error e) (.error e')

theorem Told.refl {R : α → α → Prop} (hR : ∀ a, R a a) (outcome : Except Fault α) :
    Told R outcome outcome := by
  cases outcome with
  | ok a => exact .ok (hR a)
  | error fault => exact .error rfl

theorem Told.bind {R : α → α → Prop} {Q : β → β → Prop} {outcome outcome' : Except Fault α}
    {f f' : α → Except Fault β} (h : Told R outcome outcome')
    (hf : ∀ a a', R a a' → Told Q (f a) (f' a')) : Told Q (outcome >>= f) (outcome' >>= f') := by
  cases h with
  | ok h => exact hf _ _ h
  | error h => exact .error h

def Report.Alike (R : α → α → Prop) (r r' : Report α) : Prop := Told R r.outcome r'.outcome

namespace Report.Alike

variable {R : α → α → Prop} {Q : β → β → Prop}

theorem refl (r : Report α) : r.Alike Eq r := Told.refl (fun _ => rfl) r.outcome

theorem pure {a a' : α} (h : R a a') : (Pure.pure a : Report α).Alike R (Pure.pure a') := .ok h

theorem without (n n' : Notice) :
    (Report.without n : Report (Option α)).Alike Eq (Report.without n') := .ok rfl

theorem bind {r r' : Report α} {f f' : α → Report β} (hr : r.Alike R r')
    (hf : ∀ a a', R a a' → (f a).Alike Q (f' a')) : (r >>= f).Alike Q (r' >>= f') := by
  rw [Alike, Report.bind_outcome, Report.bind_outcome]
  exact Told.bind hr hf

theorem bind_eq {r r' : Report α} {f f' : α → Report β} (hr : r.Alike Eq r')
    (hf : ∀ a, (f a).Alike Q (f' a)) : (r >>= f).Alike Q (r' >>= f') :=
  hr.bind fun a _ h => h ▸ hf a

theorem map {r r' : Report α} (hr : r.Alike Eq r') (f : α → β) : (f <$> r).Alike Eq (f <$> r') := by
  rw [map_eq_pure_bind, map_eq_pure_bind]
  exact hr.bind_eq fun _ => .pure rfl

end Report.Alike

theorem wholeToDouble_of_ofInt? {n : Int} {x : Double} (h : Double.ofInt? n = some x) :
    wholeToDouble n = .ok x := by
  rw [wholeToDouble, h, Option.elim_some]

/-- A whole number and its double are the same font weight, or none. Those that a double does not
keep are too large for a weight. -/
theorem FontWeight.ofInt?_double {n : Int} {x : Double} (h : Double.ofInt? n = some x) :
    x.toInt?.bind FontWeight.ofInt? = FontWeight.ofInt? n := by
  by_cases hsmall : n.natAbs < twoPower 53
  · rw [Double.toInt?_of_ofInt? h hsmall, Option.bind_some]
  · have hlarge : 9007199254740992 ≤ n.natAbs := Nat.le_of_not_lt hsmall
    have hnone : FontWeight.ofInt? n = none := dif_neg (by omega)
    rw [hnone]
    cases hm : x.toInt? with
    | none => rfl
    | some m =>
      have hbound := Double.natAbs_of_toInt? h hm
      exact dif_neg (by omega)

namespace Style

variable {v w : Json}

theorem choice_alike (α : Type) [Choice α] (h : v.Alike w) :
    (choice α v).Alike Eq (choice α w) := by
  cases h with
  | refl => exact .refl _
  | _ => exact .without _ _

theorem color_alike (h : v.Alike w) : (color v).Alike Eq (color w) := by
  cases h with
  | refl => exact .refl _
  | _ => exact .without _ _

theorem nonnegative_alike (invalid : Json → Notice) (h : v.Alike w) :
    (nonnegative invalid v).Alike Eq (nonnegative invalid w) := by
  cases h with
  | refl => exact .refl _
  | @number n x h =>
    rw [nonnegative, nonnegative, Double.isNonnegative_of_ofInt? h, wholeToDouble_of_ofInt? h]
    by_cases hn : 0 ≤ n
    · rw [if_pos hn, if_pos (decide_eq_true hn)]
      exact .ok rfl
    · rw [if_neg hn, if_neg (by simpa using hn)]
      exact .without _ _
  | _ => exact .without _ _

theorem side_alike {insets other : Config} (h : insets.Alike other) (name : String) :
    (side insets name).Alike Eq (side other name) := by
  have hname := h.get name
  unfold side
  generalize insets.get name = v at hname ⊢
  generalize other.get name = w at hname ⊢
  cases hname with
  | refl => exact .refl _
  | number h =>
    dsimp only
    rw [wholeToDouble_of_ofInt? h]
    exact .ok rfl
  | _ => exact .ok rfl

theorem edgeInsets_alike (h : v.Alike w) : (edgeInsets v).Alike Eq (edgeInsets w) := by
  cases h with
  | refl => exact .refl _
  | number h =>
    rw [edgeInsets, wholeToDouble_of_ofInt? h]
    exact .ok rfl
  | array h => exact .without _ _
  | object hget hoptions =>
    have h : Config.Alike _ _ := ⟨hget, hoptions⟩
    exact (side_alike h "left").bind_eq fun _ => (side_alike h "top").bind_eq fun _ =>
      (side_alike h "right").bind_eq fun _ => (side_alike h "bottom").bind_eq fun _ => .pure rfl

theorem fontWeight_alike (h : v.Alike w) : (fontWeight v).Alike Eq (fontWeight w) := by
  cases h with
  | refl => exact .refl _
  | @number n x h =>
    rw [fontWeight, fontWeight, FontWeight.ofInt?_double h]
    cases FontWeight.ofInt? n with
    | some weight => exact .refl _
    | none => exact .without _ _
  | _ => exact .refl _

theorem attributes_alike {style other : Config} (h : style.Alike other) :
    (attributes style).Alike Eq (attributes other) := by
  refine .bind_eq (nonnegative_alike _ (h.get "fontSize")) fun _ => ?_
  refine .bind_eq (color_alike (h.get "color")) fun _ => ?_
  refine .bind_eq (fontWeight_alike (h.get "fontWeight")) fun _ => ?_
  refine .bind_eq (choice_alike FontStyle (h.get "fontStyle")) fun _ => ?_
  exact .pure rfl

theorem textStyle_alike (h : v.Alike w) : (textStyle v).Alike Eq (textStyle w) := by
  cases h with
  | refl => exact .refl _
  | object hget hoptions => exact (attributes_alike ⟨hget, hoptions⟩).map some
  | _ => exact .without _ _

end Style

/-- What a fault about a field says of its value is the type. -/
theorem wrongType_told {R : α → α → Prop} (field : String) (expected : FieldType) {v w : Json}
    (h : v.typeName = w.typeName) :
    Told R (.error (.wrongType field expected v)) (.error (.wrongType field expected w)) := by
  have hmessage : (Fault.wrongType field expected v).message =
      (Fault.wrongType field expected w).message :=
    congrArg (fun type => s!"field '{field}' must be {expected.phrase}, got {type}") h
  refine .error ?_
  rw [Fault.details, Fault.details, hmessage, Fault.name, Fault.name]

namespace Config.Alike

variable {config other : Config} (h : config.Alike other)

include h

theorem text (key : String) : Told Eq (config.text key) (other.text key) := by
  have hkey := h.get key
  unfold Config.text
  generalize config.get key = v at hkey ⊢
  generalize other.get key = w at hkey ⊢
  cases hkey with
  | refl => exact .refl (fun _ => rfl) _
  | _ => exact wrongType_told _ _ rfl

theorem boolean (key : String) : Told Eq (config.boolean key) (other.boolean key) := by
  have hkey := h.get key
  unfold Config.boolean
  generalize config.get key = v at hkey ⊢
  generalize other.get key = w at hkey ⊢
  cases hkey with
  | refl => exact .refl (fun _ => rfl) _
  | _ => exact wrongType_told _ _ rfl

theorem number (key : String) : Told Eq (config.number key) (other.number key) := by
  have hkey := h.get key
  unfold Config.number
  generalize config.get key = v at hkey ⊢
  generalize other.get key = w at hkey ⊢
  cases hkey with
  | refl => exact .refl (fun _ => rfl) _
  | number hx =>
    dsimp only
    rw [wholeToDouble_of_ofInt? hx]
    exact .ok rfl
  | _ => exact wrongType_told _ _ rfl

theorem array (key : String) :
    Told (Option.Rel (List.Forall₂ Json.Alike)) (config.array key) (other.array key) := by
  have hkey := h.get key
  unfold Config.array
  generalize config.get key = v at hkey ⊢
  generalize other.get key = w at hkey ⊢
  have hsame (items : List Json) : List.Forall₂ Json.Alike items items :=
    List.forall₂_same.mpr fun u _ => .refl u
  cases hkey with
  | refl v =>
    cases v with
    | null => exact .ok .none
    | arr items => exact .ok (.some (hsame items))
    | _ => exact .error rfl
  | array hitems => exact .ok (.some hitems)
  | _ => exact wrongType_told _ _ rfl

theorem options_array : Told Eq (config.array "options") (other.array "options") := by
  have hkey := h.get "options"
  have hoptions := h.options
  unfold Config.array
  generalize config.get "options" = v at hkey hoptions ⊢
  generalize other.get "options" = w at hkey hoptions ⊢
  cases hkey with
  | refl => exact .refl (fun _ => rfl) _
  | array hitems =>
    have hsame := hoptions _ rfl
    rw [hsame]
    exact .refl (fun _ => rfl) _
  | _ => exact wrongType_told _ _ rfl

end Config.Alike

/-- A button without its action; other leaves are left alone. -/
def Leaf.passive : Leaf → Leaf
  | button content _ => button content none
  | l => l

def Widget.passive : Widget → Widget := mapLeaves Leaf.passive

/-- The same, or both missing, but for the actions of buttons. -/
def SamePassive (w w' : Option Widget) : Prop := w.map Widget.passive = w'.map Widget.passive

namespace Build

def Alike (images : Option (ImageSource → Report Bool)) (R : α → α → Prop) (b b' : Build α) : Prop :=
  (b.reading images).Alike R (b'.reading images)

namespace Alike

variable {images : Option (ImageSource → Report Bool)} {R : α → α → Prop} {Q : β → β → Prop}

theorem pure {a a' : α} (h : R a a') : (Pure.pure a : Build α).Alike images R (Pure.pure a') :=
  Report.Alike.pure h

theorem bind {b b' : Build α} {f f' : α → Build β} (hb : b.Alike images R b')
    (hf : ∀ a a', R a a' → (f a).Alike images Q (f' a')) :
    (b >>= f).Alike images Q (b' >>= f') := by
  rw [Alike, reading_bind, reading_bind]
  exact Report.Alike.bind hb hf

theorem bind_eq {b b' : Build α} {f f' : α → Build β} (hb : b.Alike images Eq b')
    (hf : ∀ a, (f a).Alike images Q (f' a)) : (b >>= f).Alike images Q (b' >>= f') :=
  hb.bind fun a _ h => h ▸ hf a

theorem ofReport {r r' : Report α} (h : r.Alike R r') :
    (Build.ofReport r).Alike images R (Build.ofReport r') := by
  rw [Alike, reading_ofReport, reading_ofReport]
  exact h

theorem lift {outcome outcome' : Except Fault α} (h : Told R outcome outcome') :
    (liftM outcome : Build α).Alike images R (liftM outcome') := by
  have hreport : (Report.ofExcept outcome).Alike R (Report.ofExcept outcome') := h
  exact ofReport hreport

end Alike

end Build

theorem spans_cons_plain {v : Json} (h : v.isObject = false) (rest : List Json) :
    Builder.spans (v :: rest) = Builder.spans rest := by
  cases v with
  | obj span => cases h
  | _ => rfl

theorem spans_alike {items others : List Json} (h : List.Forall₂ Json.Alike items others) :
    (Builder.spans items).Alike Eq (Builder.spans others) := by
  induction h with
  | nil => exact .refl _
  | @cons v w rest more hv _ ih =>
    cases v with
    | obj span =>
      obtain ⟨other, rfl, hspan⟩ := hv.exists_object
      have htext := hspan.get "text"
      unfold Builder.spans
      generalize Config.get span "text" = t at htext ⊢
      generalize Config.get other "text" = u at htext ⊢
      cases htext with
      | refl t =>
        cases t with
        | str content =>
          refine .bind_eq (Style.textStyle_alike (hspan.get "style")) fun _ => ?_
          refine .bind_eq ih fun _ => ?_
          exact .pure rfl
        | _ => exact ih
      | _ => exact ih
    | _ =>
      have hw := hv.isObject_eq.symm
      rw [spans_cons_plain rfl, spans_cons_plain hw]
      exact ih

section Still

variable {images : Option (ImageSource → Report Bool)} {config other : Config}
  (h : config.Alike other)

include h

theorem text_alike : (Builder.text config).Alike images SamePassive (Builder.text other) := by
  refine .bind_eq (.lift (h.text "text")) fun content => ?_
  cases content with
  | none => exact .pure rfl
  | some content =>
    refine .bind_eq (.ofReport (Style.textStyle_alike (h.get "style"))) fun _ => ?_
    refine .bind_eq (.ofReport (Style.choice_alike TextAlign (h.get "textAlign"))) fun _ => ?_
    exact .pure rfl

theorem richText_alike :
    (Builder.richText config).Alike images SamePassive (Builder.richText other) := by
  refine .bind (.lift (h.array "spans")) fun items others hitems => ?_
  cases hitems with
  | none => exact .pure rfl
  | some hitems =>
    have hspans := spans_alike hitems
    cases hitems with
    | nil => exact .pure rfl
    | cons _ _ =>
      refine .bind_eq (.ofReport hspans) fun _ => ?_
      refine .bind_eq (.ofReport (Style.choice_alike TextAlign (h.get "textAlign"))) fun _ => ?_
      exact .pure rfl

theorem button_alike : (Builder.button config).Alike images SamePassive (Builder.button other) := by
  refine .bind_eq (.lift (h.text "text")) fun content => ?_
  cases content with
  | none => exact .pure rfl
  | some content => exact .pure rfl

theorem imageSource_alike : Told Eq (Builder.imageSource config) (Builder.imageSource other) := by
  refine .bind (h.text "url") ?_
  rintro url _ rfl
  refine .bind (h.text "asset") ?_
  rintro asset _ rfl
  exact .ok rfl

theorem image_alike : (Builder.image config).Alike images SamePassive (Builder.image other) := by
  refine .bind_eq (.lift (imageSource_alike h)) fun source => ?_
  cases source with
  | none => exact .pure rfl
  | some source =>
    refine .bind_eq (.ofReport (Style.nonnegative_alike _ (h.get "width"))) fun _ => ?_
    refine .bind_eq (.ofReport (Style.nonnegative_alike _ (h.get "height"))) fun _ => ?_
    refine .bind_eq (.refl _) fun loads => ?_
    cases loads with
    | false => exact .pure rfl
    | true =>
      refine .bind_eq (.ofReport (Style.choice_alike BoxFit (h.get "fit"))) fun _ => ?_
      exact .pure rfl

theorem icon_alike : (Builder.icon config).Alike images SamePassive (Builder.icon other) := by
  refine .bind_eq (.lift (h.text "icon")) fun name => ?_
  cases name with
  | none => exact .pure rfl
  | some name =>
    refine .bind_eq (.refl _) fun _ => ?_
    refine .bind_eq (.ofReport (Style.nonnegative_alike _ (h.get "size"))) fun _ => ?_
    refine .bind_eq (.ofReport (Style.color_alike (h.get "color"))) fun _ => ?_
    exact .pure rfl

theorem divider_alike :
    (Builder.divider config).Alike images SamePassive (Builder.divider other) := by
  refine .bind_eq (.ofReport (Style.nonnegative_alike _ (h.get "height"))) fun _ => ?_
  refine .bind_eq (.ofReport (Style.nonnegative_alike _ (h.get "thickness"))) fun _ => ?_
  refine .bind_eq (.ofReport (Style.color_alike (h.get "color"))) fun _ => ?_
  exact .pure rfl

theorem still_alike {tag : String} {b : Builder} (hb : (tag, b) ∈ Form.stillBuilders) :
    (b config).Alike images SamePassive (b other) := by
  simp only [Form.stillBuilders, List.mem_cons, List.not_mem_nil, or_false, Prod.mk.injEq] at hb
  rcases hb with ⟨-, rfl⟩ | ⟨-, rfl⟩ | ⟨-, rfl⟩ | ⟨-, rfl⟩ | ⟨-, rfl⟩ | ⟨-, rfl⟩
  · exact text_alike h
  · exact richText_alike h
  · exact button_alike h
  · exact image_alike h
  · exact icon_alike h
  · exact divider_alike h

end Still

/-- Forms that get as far and come to the same, but for the actions of buttons. -/
inductive Form.Alike : Form → Form → Prop where
  | still {r r' : Report (Option Widget)} (h : r.Alike SamePassive r') : Alike (.still r) (.still r')
  | field {r r' : Report (Option String × Option String)} (h : r.Alike Eq r') :
      Alike (.field r) (.field r')
  | input {r r' : Report (Option Seed)} (h : r.Alike Eq r') : Alike (.input r) (.input r')
  | wrapper {r r' : Report (Report (Wrapper × List Wrapper))}
      (h : r.Alike (Report.Alike Eq) r') : Alike (.wrapper r) (.wrapper r')
  | group {r r' : Report (Option (Report Group))}
      (h : r.Alike (Option.Rel (Report.Alike Eq)) r') : Alike (.group r) (.group r')

theorem centerOpening_alike : Form.centerOpening.Alike (Report.Alike Eq) Form.centerOpening :=
  .pure (.refl _)

section Forms

variable {config other : Config} (h : config.Alike other)

include h

theorem flexOpening_alike (axis : Axis) :
    (Form.flexOpening axis config).Alike (Option.Rel (Report.Alike Eq))
      (Form.flexOpening axis other) := by
  refine .bind (h.array "children") fun items others hitems => ?_
  cases hitems with
  | none => exact .pure .none
  | some _ =>
    refine .pure (.some ?_)
    refine .bind_eq (Style.choice_alike MainAlignment (h.get "mainAxisAlignment")) fun _ => ?_
    refine .bind_eq (Style.choice_alike CrossAlignment (h.get "crossAxisAlignment")) fun _ => ?_
    exact .pure rfl

theorem listOpening_alike :
    (Form.listOpening config).Alike (Option.Rel (Report.Alike Eq)) (Form.listOpening other) := by
  refine .bind (h.array "children") fun items others hitems => ?_
  cases hitems with
  | none => exact .pure .none
  | some _ =>
    refine .bind_eq (h.boolean "shrinkWrap") fun _ => ?_
    exact .pure (.some (.pure rfl))

theorem containerOpening_alike :
    (Form.containerOpening config).Alike (Report.Alike Eq) (Form.containerOpening other) := by
  refine .pure ?_
  refine .bind_eq (Style.nonnegative_alike _ (h.get "width")) fun _ => ?_
  refine .bind_eq (Style.nonnegative_alike _ (h.get "height")) fun _ => ?_
  refine .bind_eq (Style.edgeInsets_alike (h.get "padding")) fun _ => ?_
  refine .bind_eq (Style.edgeInsets_alike (h.get "margin")) fun _ => ?_
  refine .bind_eq (Style.color_alike (h.get "color")) fun _ => ?_
  refine .bind_eq (Style.nonnegative_alike _ (h.get "borderRadius")) fun _ => ?_
  exact .pure rfl

theorem sizedBoxOpening_alike :
    (Form.sizedBoxOpening config).Alike (Report.Alike Eq) (Form.sizedBoxOpening other) := by
  refine .pure ?_
  refine .bind_eq (Style.nonnegative_alike _ (h.get "width")) fun _ => ?_
  refine .bind_eq (Style.nonnegative_alike _ (h.get "height")) fun _ => ?_
  exact .pure rfl

theorem cardOpening_alike :
    (Form.cardOpening config).Alike (Report.Alike Eq) (Form.cardOpening other) := by
  refine .bind_eq (h.number "elevation") fun _ => ?_
  refine .bind_eq (Style.edgeInsets_alike (h.get "padding")) fun _ => ?_
  refine .bind_eq (Style.edgeInsets_alike (h.get "margin")) fun _ => ?_
  exact .pure (.pure rfl)

theorem textFieldReading_alike :
    (Form.textFieldReading config).Alike Eq (Form.textFieldReading other) := by
  refine .bind_eq (h.text "label") fun _ => ?_
  refine .bind_eq (h.text "hint") fun _ => ?_
  exact .pure rfl

theorem checkboxSeed_alike : (Form.checkboxSeed config).Alike Eq (Form.checkboxSeed other) := by
  refine .bind_eq (h.text "label") fun _ => ?_
  refine .bind_eq (h.boolean "value") fun _ => ?_
  exact .pure rfl

theorem dropdownSeed_alike : (Form.dropdownSeed config).Alike Eq (Form.dropdownSeed other) := by
  refine .bind_eq h.options_array fun items => ?_
  rcases items with _ | _ | ⟨item, items⟩
  · exact .pure rfl
  · exact .pure rfl
  · refine .bind_eq (h.text "label") fun _ => ?_
    exact .pure rfl

theorem ofTag?_alike {images : Option (ImageSource → Report Bool)} {tag : String} {form : Form}
    (hform : Form.ofTag? images tag config = some form) :
    ∃ form', Form.ofTag? images tag other = some form' ∧ form.Alike form' := by
  unfold Form.ofTag? at hform ⊢
  split at hform
  case h_1 => exact ⟨_, rfl, Option.some.inj hform ▸ .group (flexOpening_alike h .vertical)⟩
  case h_2 => exact ⟨_, rfl, Option.some.inj hform ▸ .group (flexOpening_alike h .horizontal)⟩
  case h_3 => exact ⟨_, rfl, Option.some.inj hform ▸ .group (listOpening_alike h)⟩
  case h_4 => exact ⟨_, rfl, Option.some.inj hform ▸ .wrapper (containerOpening_alike h)⟩
  case h_5 => exact ⟨_, rfl, Option.some.inj hform ▸ .wrapper centerOpening_alike⟩
  case h_6 => exact ⟨_, rfl, Option.some.inj hform ▸ .wrapper (sizedBoxOpening_alike h)⟩
  case h_7 => exact ⟨_, rfl, Option.some.inj hform ▸ .wrapper (cardOpening_alike h)⟩
  case h_8 => exact ⟨_, rfl, Option.some.inj hform ▸ .field (textFieldReading_alike h)⟩
  case h_9 => exact ⟨_, rfl, Option.some.inj hform ▸ .input (checkboxSeed_alike h)⟩
  case h_10 => exact ⟨_, rfl, Option.some.inj hform ▸ .input (dropdownSeed_alike h)⟩
  case h_11 =>
    obtain ⟨b, hb, rfl⟩ := Option.map_eq_some_iff.mp hform
    rw [hb]
    exact ⟨_, rfl, .still (still_alike h (mem_of_lookup hb))⟩

end Forms

/-- Contents that are shown the same, but for the actions of buttons. -/
inductive Content.Alike : Content → Content → Prop where
  | refl (c : Content) : Alike c c
  | still {w w' : Widget} (h : w.passive = w'.passive) : Alike (.still w) (.still w')

namespace Form.Alike

variable {form form' : Form}

theorem reach_eq (h : form.Alike form') : form.reach = form'.reach := by
  cases h with
  | still h => rfl
  | field h => rfl
  | @input r r' h =>
    change Told Eq r.outcome r'.outcome at h
    simp only [reach]
    generalize r.outcome = outcome at h ⊢
    generalize r'.outcome = outcome' at h ⊢
    cases h with
    | ok h => rw [h]
    | error h => rfl
  | @wrapper r r' h =>
    change Told (Report.Alike Eq) r.outcome r'.outcome at h
    simp only [reach]
    generalize r.outcome = outcome at h ⊢
    generalize r'.outcome = outcome' at h ⊢
    cases h <;> rfl
  | @group r r' h =>
    change Told (Option.Rel (Report.Alike Eq)) r.outcome r'.outcome at h
    simp only [reach]
    generalize r.outcome = outcome at h ⊢
    generalize r'.outcome = outcome' at h ⊢
    cases h with
    | ok h => cases h <;> rfl
    | error h => rfl

theorem content_told (h : form.Alike form') :
    Told (Option.Rel Content.Alike) form.content form'.content := by
  have hrefl (c : Option Content) : Option.Rel Content.Alike c c := by
    cases c with
    | none => exact .none
    | some c => exact .some (.refl c)
  cases h with
  | still h =>
    rw [content, content, map_eq_pure_bind, map_eq_pure_bind]
    refine .bind h fun w w' hw => .ok ?_
    rcases w with _ | w <;> rcases w' with _ | w'
    · exact .none
    · cases hw
    · cases hw
    · exact .some (.still (Option.some.inj hw))
  | field h =>
    rw [content, content, map_eq_pure_bind, map_eq_pure_bind]
    refine .bind h ?_
    rintro reading _ rfl
    exact .ok (hrefl _)
  | input h =>
    rw [content, content, map_eq_pure_bind, map_eq_pure_bind]
    refine .bind h ?_
    rintro seed _ rfl
    exact .ok (hrefl _)
  | wrapper h =>
    refine .bind h fun closing closing' hclosing => ?_
    refine .bind hclosing ?_
    rintro w _ rfl
    exact .ok (hrefl _)
  | group h =>
    refine .bind h fun closing closing' hclosing => ?_
    cases hclosing with
    | none => exact .ok .none
    | some hclosing =>
      refine .bind hclosing ?_
      rintro g _ rfl
      exact .ok (hrefl _)

end Form.Alike

end ServerUi
