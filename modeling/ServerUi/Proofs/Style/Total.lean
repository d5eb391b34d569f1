import ServerUi.Proofs.Builder.Faults
import ServerUi.Proofs.Number.Whole
import ServerUi.Proofs.Wording
import ServerUi.Style.Property

/-! What becomes of a style value, whatever stands in the document. It resolves, to nothing or to a
value of its property, unless one of the steps on the way fails: a value that is refused cannot be
told to the log, or a whole number is too large for a double. -/

namespace ServerUi

/-- A step on the way to a style value: to tell a value that is refused, or to make a whole number
into a double. -/
inductive StyleStep where
  | tell (v : Json)
  | convert (n : Int)

namespace StyleStep

/-- What a step ends in, if it is the last. -/
def fault? (w : Wording) : StyleStep → Option Fault
  | tell v => w.value? v
  | convert n => if Double.wholeLimit ≤ n.natAbs then some .overflow else none

/-- What the first step that fails ends in. -/
def first? (w : Wording) (steps : List StyleStep) : Option Fault := steps.findSome? (fault? w)

theorem first?_append (w : Wording) (steps more : List StyleStep) :
    first? w (steps ++ more) = (first? w steps).or (first? w more) :=
  List.findSome?_append

theorem first?_singleton (w : Wording) (step : StyleStep) : first? w [step] = step.fault? w := by
  rw [first?, List.findSome?_cons]
  cases step.fault? w <;> rfl

end StyleStep

namespace Report

variable {w : Wording}

/-- Takes steps one after another. The first that fails is the end of it, and behind all of them is a
value with a property. -/
structure Takes (w : Wording) (r : Report α) (steps : List StyleStep) (P : α → Prop) : Prop where
  stops : ∀ fault, StyleStep.first? w steps = some fault → (r.written w).outcome = .error fault
  arrives : StyleStep.first? w steps = none → ∃ a, (r.written w).outcome = .ok a ∧ P a

namespace Takes

variable {r : Report α} {steps more : List StyleStep} {P : α → Prop} {Q : β → Prop}

theorem pure {a : α} (ha : P a) : (Pure.pure a : Report α).Takes w [] P :=
  ⟨nofun, fun _ => ⟨a, rfl, ha⟩⟩

/-- A record that any wording tells is no step. -/
theorem told {n : Notice} (hn : n.untold? w = none) {outcome : α} (ha : P outcome) :
    (⟨[n], .ok outcome⟩ : Report α).Takes w [] P := by
  refine ⟨nofun, fun _ => ⟨outcome, ?_, ha⟩⟩
  rw [written_outcome, w.stop?_singleton, hn]
  rfl

theorem tell {n : Notice} {v : Json} (hn : n.untold? w = w.value? v) {outcome : α}
    (ha : P outcome) : (⟨[n], .ok outcome⟩ : Report α).Takes w [.tell v] P := by
  have hwritten : ((⟨[n], .ok outcome⟩ : Report α).written w).outcome =
      (n.untold? w).elim (.ok outcome) .error := by
    rw [written_outcome, w.stop?_singleton]
  have hfirst : StyleStep.first? w [.tell v] = n.untold? w := by
    rw [StyleStep.first?_singleton, StyleStep.fault?, hn]
  constructor
  · intro fault hfault
    rw [hwritten, ← hfirst, hfault]
    rfl
  · intro hnone
    rw [hwritten, ← hfirst, hnone]
    exact ⟨outcome, rfl, ha⟩

theorem bind {f : α → Report β} (hr : r.Takes w steps P) (hf : ∀ a, P a → (f a).Takes w more Q) :
    (r >>= f).Takes w (steps ++ more) Q := by
  cases hfirst : StyleStep.first? w steps with
  | some fault =>
    have hbind : ((r >>= f).written w).outcome = .error fault := by
      rw [written_bind, hr.stops fault hfirst]
      rfl
    constructor
    · intro other hother
      rw [StyleStep.first?_append, hfirst] at hother
      rw [hbind, ← Option.some.inj hother]
    · intro hnone
      rw [StyleStep.first?_append, hfirst] at hnone
      cases hnone
  | none =>
    obtain ⟨a, ha, hP⟩ := hr.arrives hfirst
    have hbind : ((r >>= f).written w).outcome = ((f a).written w).outcome := by
      rw [written_bind, ha]
      rfl
    have happend : StyleStep.first? w (steps ++ more) = StyleStep.first? w more := by
      rw [StyleStep.first?_append, hfirst]
      rfl
    constructor
    · intro fault hfault
      rw [hbind]
      exact (hf a hP).stops fault (happend.symm.trans hfault)
    · intro hnone
      rw [hbind]
      exact (hf a hP).arrives (happend.symm.trans hnone)

theorem map {f : α → β} (hr : r.Takes w steps P) (h : ∀ a, P a → Q (f a)) :
    (f <$> r).Takes w steps Q := by
  have hbind := hr.bind fun a ha => pure (w := w) (P := Q) (h a ha)
  rwa [List.append_nil, ← map_eq_pure_bind] at hbind

end Takes

end Report

theorem wholeToDouble_eq_error_iff (n : Int) :
    wholeToDouble n = .error .overflow ↔ Double.wholeLimit ≤ n.natAbs := by
  rw [← Double.ofInt?_eq_none_iff, wholeToDouble]
  generalize Double.ofInt? n = nearest
  cases nearest with
  | none => exact iff_of_true rfl rfl
  | some x => exact iff_of_false (by simp) (by simp)

namespace Style

/-- A text is asked for; another value but null is refused. -/
def textSteps : Json → List StyleStep
  | .null | .str _ => []
  | v => [.tell v]

/-- A number from zero on is asked for. -/
def numberSteps : Json → List StyleStep
  | .null => []
  | .int n => if 0 ≤ n then [.convert n] else [.tell (.int n)]
  | .float x => if x.isNonnegative then [] else [.tell (.float x)]
  | v => [.tell v]

def sideSteps : Json → List StyleStep
  | .null | .float _ => []
  | .int n => [.convert n]
  | v => [.tell v]

/-- The four sides one after another, or the value for all of them. -/
def insetSteps : Json → List StyleStep
  | .obj insets =>
    ["left", "top", "right", "bottom"].flatMap fun name => sideSteps (Config.get insets name)
  | v => sideSteps v

/-- A number that is no weight is refused; values of other kinds are passed over. -/
def weightSteps : Json → List StyleStep
  | .int n => if (FontWeight.ofInt? n).isSome then [] else [.tell (.int n)]
  | .float x => if (x.toInt?.bind FontWeight.ofInt?).isSome then [] else [.tell (.float x)]
  | _ => []

def attributeSteps : Json → List StyleStep
  | .null => []
  | .obj style =>
    numberSteps (Config.get style "fontSize") ++ (textSteps (Config.get style "color") ++
      (weightSteps (Config.get style "fontWeight") ++ textSteps (Config.get style "fontStyle")))
  | v => [.tell v]

variable (w : Wording)

theorem wholeToDouble_takes (n : Int) :
    (Report.ofExcept (wholeToDouble n)).Takes w [.convert n] fun _ => True := by
  have hiff := wholeToDouble_eq_error_iff n
  have hfaults : ∀ fault, wholeToDouble n = .error fault → fault = .overflow :=
    fun _ => wholeToDouble_overflow
  have hwritten (outcome : Except Fault Double) :
      ((Report.ofExcept outcome).written w).outcome = outcome := rfl
  constructor
  · intro fault hfault
    rw [StyleStep.first?_singleton, StyleStep.fault?] at hfault
    split at hfault
    · next hlarge =>
      rw [hwritten, hiff.mpr hlarge, ← Option.some.inj hfault]
    · cases hfault
  · intro hnone
    rw [StyleStep.first?_singleton, StyleStep.fault?] at hnone
    split at hnone
    · cases hnone
    · next hsmall =>
      rw [hwritten]
      generalize wholeToDouble n = outcome at hiff hfaults
      cases outcome with
      | ok x => exact ⟨x, rfl, trivial⟩
      | error fault =>
        rw [hfaults fault rfl] at hiff
        exact absurd (hiff.mp rfl) hsmall

theorem nonnegative_takes {invalid : Json → Notice}
    (hinvalid : ∀ v, (invalid v).untold? w = w.value? v) (v : Json) :
    (nonnegative invalid v).Takes w (numberSteps v) fun _ => True := by
  cases v with
  | null => exact .pure trivial
  | int n =>
    rw [nonnegative, numberSteps]
    split
    · exact (wholeToDouble_takes w n).map fun _ _ => trivial
    · exact .tell (hinvalid _) trivial
  | float x =>
    rw [nonnegative, numberSteps]
    split
    · exact .pure trivial
    · exact .tell (hinvalid _) trivial
  | _ => exact .tell (hinvalid _) trivial

theorem side_takes (insets : Config) (name : String) :
    (side insets name).Takes w (sideSteps (Config.get insets name)) fun _ => True := by
  unfold side
  cases insets.get name with
  | null => exact .pure trivial
  | int n => exact wholeToDouble_takes w n
  | float x => exact .pure trivial
  | _ => exact .tell rfl trivial

theorem edgeInsets_takes (v : Json) : (edgeInsets v).Takes w (insetSteps v) fun _ => True := by
  cases v with
  | null => exact .pure trivial
  | int n => exact (wholeToDouble_takes w n).map fun _ _ => trivial
  | float x => exact .pure trivial
  | obj insets =>
    have hsides := (side_takes w insets "left").bind fun left _ =>
      (side_takes w insets "top").bind fun top _ =>
      (side_takes w insets "right").bind fun right _ =>
      (side_takes w insets "bottom").bind fun bottom _ =>
        .pure (w := w) (P := fun _ => True) (a := some (⟨left, top, right, bottom⟩ : EdgeInsets))
          trivial
    exact hsides
  | _ => exact .tell rfl trivial

theorem choice_takes (α : Type) [Choice α] (v : Json) :
    (choice α v).Takes w (textSteps v) fun a => ∀ b, a = some b → b ∈ (Choice.all : List α) := by
  cases v with
  | null => exact .pure (by simp)
  | str s =>
    rw [choice]
    split
    · next a ha =>
      have hmem : a ∈ (Choice.all : List α) := List.mem_of_find?_eq_some ha
      refine .pure ?_
      rintro b ⟨⟩
      exact hmem
    · exact .told rfl (by simp)
  | _ => exact .tell rfl (by simp)

theorem color_takes (v : Json) : (color v).Takes w (textSteps v) fun _ => True := by
  cases v with
  | null => exact .pure trivial
  | str s =>
    rw [color]
    split
    · split
      · exact .pure trivial
      · exact .told rfl trivial
    · split
      · exact .pure trivial
      · exact .told rfl trivial
  | _ => exact .tell rfl trivial

theorem fontWeight_takes (v : Json) : (fontWeight v).Takes w (weightSteps v) fun _ => True := by
  cases v with
  | str s =>
    rw [fontWeight]
    split
    · exact .pure trivial
    · exact .told rfl trivial
  | int n =>
    rw [fontWeight, weightSteps]
    cases FontWeight.ofInt? n with
    | some weight => exact .pure trivial
    | none => exact .tell rfl trivial
  | float x =>
    rw [fontWeight, weightSteps]
    cases x.toInt?.bind FontWeight.ofInt? with
    | some weight => exact .pure trivial
    | none => exact .tell rfl trivial
  | _ => exact .pure trivial

theorem textStyle_takes (v : Json) : (textStyle v).Takes w (attributeSteps v) fun _ => True := by
  cases v with
  | null => exact .pure trivial
  | obj style =>
    have hattributes : (attributes style).Takes w (attributeSteps (.obj style)) fun _ => True :=
      (nonnegative_takes w (fun _ => rfl) _).bind fun size _ =>
        (color_takes w _).bind fun color _ =>
        (fontWeight_takes w _).bind fun weight _ =>
        (choice_takes w FontStyle _).map fun _ _ => trivial
    exact hattributes.map fun _ _ => trivial
  | _ => exact .tell rfl trivial

end Style

namespace StyleProperty

/-- The steps on the way from a value to what a property takes it for. -/
def steps : StyleProperty → Json → List StyleStep
  | color, v | textAlign, v | mainAlignment, v | crossAlignment, v | boxFit, v | fontStyle, v =>
    Style.textSteps v
  | edgeInsets, v => Style.insetSteps v
  | borderRadius, v | dimension, v => Style.numberSteps v
  | fontWeight, v => Style.weightSteps v
  | textStyle, v => Style.attributeSteps v

def names (α : Type) [Choice α] : List String := (Choice.all : List α).map Choice.name

def Admits : StyleProperty → StyleValue → Prop
  | color, .color _ => True
  | textAlign, .choice name => name ∈ names TextAlign
  | mainAlignment, .choice name => name ∈ names MainAlignment
  | crossAlignment, .choice name => name ∈ names CrossAlignment
  | edgeInsets, .edgeInsets _ => True
  | borderRadius, .radius _ => True
  | dimension, .dimension _ => True
  | boxFit, .choice name => name ∈ names BoxFit
  | fontWeight, .weight _ => True
  | fontStyle, .choice name => name ∈ names FontStyle
  | textStyle, .text _ => True
  | _, _ => False

variable (w : Wording)

theorem resolve_choice (property : StyleProperty) (α : Type) [Choice α] (v : Json)
    (hadmits : ∀ name ∈ names α, property.Admits (.choice name)) :
    (Option.map (.choice ∘ Choice.name) <$> Style.choice α v).Takes w (Style.textSteps v)
      fun value => ∀ a, value = some a → property.Admits a := by
  refine (Style.choice_takes w α v).map fun found hfound => ?_
  cases found with
  | none => simp
  | some a =>
    rintro _ ⟨⟩
    exact hadmits _ (List.mem_map_of_mem (hfound a rfl))

theorem resolve_plain (property : StyleProperty) {r : Report (Option α)} {steps : List StyleStep}
    (hr : r.Takes w steps fun _ => True) {f : α → StyleValue}
    (hadmits : ∀ a, property.Admits (f a)) :
    (Option.map f <$> r).Takes w steps fun value => ∀ a, value = some a → property.Admits a := by
  refine hr.map fun found _ => ?_
  cases found with
  | none => simp
  | some a =>
    rintro _ ⟨⟩
    exact hadmits a

theorem resolve_takes (property : StyleProperty) (v : Json) :
    (property.resolve v).Takes w (property.steps v)
      fun value => ∀ a, value = some a → property.Admits a := by
  cases property with
  | color => exact resolve_plain w .color (Style.color_takes w v) fun _ => trivial
  | textAlign => exact resolve_choice w .textAlign TextAlign v fun _ h => h
  | mainAlignment => exact resolve_choice w .mainAlignment MainAlignment v fun _ h => h
  | crossAlignment => exact resolve_choice w .crossAlignment CrossAlignment v fun _ h => h
  | edgeInsets => exact resolve_plain w .edgeInsets (Style.edgeInsets_takes w v) fun _ => trivial
  | borderRadius =>
    exact resolve_plain w .borderRadius (Style.nonnegative_takes w (fun _ => rfl) v) fun _ => trivial
  | dimension =>
    exact resolve_plain w .dimension (Style.nonnegative_takes w (fun _ => rfl) v) fun _ => trivial
  | boxFit => exact resolve_choice w .boxFit BoxFit v fun _ h => h
  | fontWeight => exact resolve_plain w .fontWeight (Style.fontWeight_takes w v) fun _ => trivial
  | fontStyle => exact resolve_choice w .fontStyle FontStyle v fun _ h => h
  | textStyle => exact resolve_plain w .textStyle (Style.textStyle_takes w v) fun _ => trivial

end StyleProperty

section Told

mutual

/-- With more room no fewer values are told. -/
theorem Json.untold?_succ (v : Json) {room : Nat} (h : v.untold? room = none) :
    v.untold? (room + 1) = none := by
  cases room with
  | zero => cases v <;> cases h
  | succ room =>
    cases v with
    | arr items => exact Json.untoldItem?_succ items h
    | obj members => exact Json.untoldMember?_succ members h
    | _ => exact h

theorem Json.untoldItem?_succ (items : List Json) {room : Nat}
    (h : Json.untoldItem? items room = none) : Json.untoldItem? items (room + 1) = none := by
  cases items with
  | nil => rfl
  | cons v rest =>
    obtain ⟨hv, hrest⟩ := Option.or_eq_none_iff.mp h
    exact Option.or_eq_none_iff.mpr ⟨v.untold?_succ hv, Json.untoldItem?_succ rest hrest⟩

theorem Json.untoldMember?_succ (members : List (String × Json)) {room : Nat}
    (h : Json.untoldMember? members room = none) :
    Json.untoldMember? members (room + 1) = none := by
  cases members with
  | nil => rfl
  | cons m rest =>
    obtain ⟨k, v⟩ := m
    obtain ⟨hv, hrest⟩ := Option.or_eq_none_iff.mp h
    exact Option.or_eq_none_iff.mpr ⟨v.untold?_succ hv, Json.untoldMember?_succ rest hrest⟩

end

theorem Json.untoldMember?_lookup {members : Config} {room : Nat}
    (h : Json.untoldMember? members room = none) {name : String} {v : Json}
    (hv : members.lookup name = some v) : v.untold? room = none := by
  induction members with
  | nil => cases hv
  | cons m rest ih =>
    obtain ⟨k, u⟩ := m
    obtain ⟨hu, hrest⟩ := Option.or_eq_none_iff.mp h
    rw [List.lookup_cons] at hv
    split at hv
    · rwa [← Option.some.inj hv]
    · exact ih hrest hv

theorem Json.untold?_get {members : Config} {room : Nat}
    (h : (Json.obj members).untold? room = none) (name : String) :
    (Config.get members name).untold? room = none := by
  cases room with
  | zero => cases h
  | succ room =>
    rw [Config.get]
    cases hv : members.lookup name with
    | none => rfl
    | some v => exact v.untold?_succ (Json.untoldMember?_lookup h hv)

end Told

namespace Style

variable {u v : Json}

theorem eq_of_tell_textSteps (h : .tell u ∈ textSteps v) : u = v := by
  cases v <;> simp_all [textSteps]

theorem eq_of_tell_numberSteps (h : .tell u ∈ numberSteps v) : u = v := by
  unfold numberSteps at h
  split at h
  · cases h
  · split at h <;> simp_all
  · split at h <;> simp_all
  · simpa using h

theorem eq_of_tell_sideSteps (h : .tell u ∈ sideSteps v) : u = v := by
  cases v <;> simp_all [sideSteps]

theorem eq_of_tell_weightSteps (h : .tell u ∈ weightSteps v) : u = v := by
  unfold weightSteps at h
  split at h
  · split at h <;> simp_all
  · split at h <;> simp_all
  · cases h

/-- The value itself, or one of its members. -/
def Of (v u : Json) : Prop := u = v ∨ ∃ config name, v = .obj config ∧ u = Config.get config name

theorem of_tell_insetSteps (h : .tell u ∈ insetSteps v) : Of v u := by
  unfold insetSteps at h
  split at h
  · next insets =>
    obtain ⟨name, -, hside⟩ := List.mem_flatMap.mp h
    exact .inr ⟨insets, name, rfl, eq_of_tell_sideSteps hside⟩
  · exact .inl (eq_of_tell_sideSteps h)

theorem of_tell_attributeSteps (h : .tell u ∈ attributeSteps v) : Of v u := by
  unfold attributeSteps at h
  split at h
  · cases h
  · next style =>
    simp only [List.mem_append] at h
    rcases h with hsize | hcolor | hweight | hslant
    · exact .inr ⟨style, _, rfl, eq_of_tell_numberSteps hsize⟩
    · exact .inr ⟨style, _, rfl, eq_of_tell_textSteps hcolor⟩
    · exact .inr ⟨style, _, rfl, eq_of_tell_weightSteps hweight⟩
    · exact .inr ⟨style, _, rfl, eq_of_tell_textSteps hslant⟩
  · exact .inl (by simpa using h)

end Style

/-- Only the value itself, or a member of it, is ever refused. -/
theorem StyleProperty.of_tell_steps {property : StyleProperty} {v u : Json}
    (h : .tell u ∈ property.steps v) : Style.Of v u := by
  cases property with
  | edgeInsets => exact Style.of_tell_insetSteps h
  | textStyle => exact Style.of_tell_attributeSteps h
  | borderRadius => exact .inl (Style.eq_of_tell_numberSteps h)
  | dimension => exact .inl (Style.eq_of_tell_numberSteps h)
  | fontWeight => exact .inl (Style.eq_of_tell_weightSteps h)
  | _ => exact .inl (Style.eq_of_tell_textSteps h)

section Limited

variable {property : StyleProperty} {v : Json} {room : Nat} (htold : v.untold? room = none)

include htold

theorem Style.untold?_of {u : Json} (h : Style.Of v u) : u.untold? room = none := by
  obtain rfl | ⟨config, name, rfl, rfl⟩ := h
  · exact htold
  · exact Json.untold?_get htold name

/-- Of a value that can be told, only a number that is too large stops the way. -/
theorem StyleProperty.convert_of_first? {fault : Fault}
    (h : StyleStep.first? (.limited room) (property.steps v) = some fault) :
    fault = .overflow ∧
      ∃ n, StyleStep.convert n ∈ property.steps v ∧ Double.wholeLimit ≤ n.natAbs := by
  obtain ⟨step, hmem, hstep⟩ := List.exists_of_findSome?_eq_some h
  cases step with
  | tell u =>
    have hu : u.untold? room = some fault := hstep
    cases (Style.untold?_of htold (StyleProperty.of_tell_steps hmem)).symm.trans hu
  | convert n =>
    rw [StyleStep.fault?] at hstep
    split at hstep
    · next hlarge => exact ⟨(Option.some.inj hstep).symm, n, hmem, hlarge⟩
    · cases hstep

theorem StyleProperty.first?_of_convert {n : Int} (hmem : StyleStep.convert n ∈ property.steps v)
    (hlarge : Double.wholeLimit ≤ n.natAbs) :
    StyleStep.first? (.limited room) (property.steps v) = some .overflow := by
  cases hfirst : StyleStep.first? (.limited room) (property.steps v) with
  | some fault => rw [(StyleProperty.convert_of_first? htold hfirst).1]
  | none =>
    have hnone := List.findSome?_eq_none_iff.mp hfirst _ hmem
    rw [StyleStep.fault?, if_pos hlarge] at hnone
    cases hnone

end Limited

/-- Every style value resolves, to nothing or to a value of its property, unless a step on the way
fails; then the first that does is the end of it. If the value can be told, with room for so many
levels, such a step can only be to make a whole number into a double that is too large for one. -/
theorem resolve_total (property : StyleProperty) (v : Json) :
    (∀ w : Wording, let r := (property.resolve v).written w
      (∃ fault, StyleStep.first? w (property.steps v) = some fault ∧ r.outcome = .error fault) ∨
      (StyleStep.first? w (property.steps v) = none ∧
        ∃ value, r.outcome = .ok value ∧ ∀ a, value = some a → property.Admits a)) ∧
    ∀ room, v.untold? room = none →
      let r := (property.resolve v).written (.limited room)
      (∀ fault, r.outcome = .error fault → fault = .overflow) ∧
      (r.outcome = .error .overflow ↔
        ∃ n, StyleStep.convert n ∈ property.steps v ∧ Double.wholeLimit ≤ n.natAbs) := by
  have hcases (w : Wording) := property.resolve_takes w v
  refine ⟨fun w => ?_, fun room htold => ?_⟩
  · cases hfirst : StyleStep.first? w (property.steps v) with
    | some fault => exact .inl ⟨fault, rfl, (hcases w).stops fault hfirst⟩
    | none => exact .inr ⟨rfl, (hcases w).arrives hfirst⟩
  intro r
  have htakes := hcases (.limited room)
  have hfails (fault : Fault) (h : r.outcome = .error fault) : fault = .overflow ∧
      ∃ n, StyleStep.convert n ∈ property.steps v ∧ Double.wholeLimit ≤ n.natAbs := by
    cases hfirst : StyleStep.first? (.limited room) (property.steps v) with
    | some first =>
      rw [Except.error.inj (h.symm.trans (htakes.stops first hfirst))]
      exact property.convert_of_first? htold hfirst
    | none =>
      obtain ⟨value, hvalue, -⟩ := htakes.arrives hfirst
      cases h.symm.trans hvalue
  refine ⟨fun fault h => (hfails fault h).1, fun h => (hfails _ h).2, ?_⟩
  rintro ⟨n, hmem, hlarge⟩
  exact htakes.stops _ (StyleProperty.first?_of_convert htold hmem hlarge)

theorem resolve_total_refused :
    let v : Json := .arr [.null]
    v.untold? 2 = none ∧ ∀ fault,
      ((StyleProperty.color.resolve v).written (.limited 2)).outcome = .error fault →
        fault = .overflow := by
  intro v
  have htold : v.untold? 2 = none := rfl
  exact ⟨htold, ((resolve_total .color v).2 2 htold).1⟩

/-- Even if everything can be told, a whole number that is too large does not resolve. -/
theorem dimension_unresolved :
    ¬ ∀ (property : StyleProperty) (v : Json),
      ∃ value, ((property.resolve v).written .full).outcome = .ok value := by
  intro h
  let v : Json := .int (.ofNat (tenPower 309))
  have hlarge : Double.wholeLimit ≤ (Int.ofNat (tenPower 309)).natAbs := by decide +kernel
  have hsteps : StyleProperty.dimension.steps v = [.convert (.ofNat (tenPower 309))] := rfl
  have hstops := (StyleProperty.dimension.resolve_takes .full v).stops .overflow
  rw [hsteps, StyleStep.first?_singleton, StyleStep.fault?, if_pos hlarge] at hstops
  obtain ⟨value, hvalue⟩ := h .dimension v
  cases hvalue.symm.trans (hstops rfl)

end ServerUi
