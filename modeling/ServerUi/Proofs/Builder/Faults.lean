import ServerUi.Proofs.Builder.Kinds

/-! Faults of the standard builders. Style values are resolved without a fault, unless a number is
too large for a double. A container and a sized box resolve theirs behind the child; every other
node is past its last fault when something below it is rendered. -/

namespace ServerUi

/-- Ends in a fault with a property, if in any. -/
def Report.Faults (r : Report α) (P : Fault → Prop) : Prop :=
  ∀ fault, r.outcome = .error fault → P fault

namespace Report.Faults

variable {P : Fault → Prop}

theorem pure (a : α) : (Pure.pure a : Report α).Faults P := by
  intro fault h
  cases h

theorem without (n : Notice) : (Report.without n : Report (Option α)).Faults P := by
  intro fault h
  cases h

theorem ofExcept {outcome : Except Fault α} (h : ∀ fault, outcome = .error fault → P fault) :
    (Report.ofExcept outcome).Faults P :=
  h

theorem bind {r : Report α} {f : α → Report β} (hr : r.Faults P) (hf : ∀ a, (f a).Faults P) :
    (r >>= f).Faults P := by
  intro fault h
  rw [Report.bind_outcome] at h
  cases ha : r.outcome with
  | error e =>
    rw [ha] at h
    cases h
    exact hr _ ha
  | ok a =>
    rw [ha] at h
    exact hf a fault h

theorem map {r : Report α} (hr : r.Faults P) (f : α → β) : (f <$> r).Faults P := by
  rw [map_eq_pure_bind]
  exact hr.bind fun _ => .pure _

theorem mono {Q : Fault → Prop} {r : Report α} (hr : r.Faults P) (h : ∀ fault, P fault → Q fault) :
    r.Faults Q :=
  fun fault hfault => h fault (hr fault hfault)

end Report.Faults

/-- The only fault of a style value. -/
def Fault.IsOverflow (fault : Fault) : Prop := fault = .overflow

theorem wholeToDouble_overflow {n : Int} {fault : Fault} (h : wholeToDouble n = .error fault) :
    fault.IsOverflow := by
  unfold wholeToDouble at h
  -- Which double it is does not matter, and comparing it would compute its largest power of two.
  generalize Double.ofInt? n = nearest at h
  cases nearest with
  | some x => cases h
  | none => exact (Except.error.inj h).symm

namespace Style

theorem wholeToDouble_faults (n : Int) :
    (Report.ofExcept (wholeToDouble n)).Faults Fault.IsOverflow :=
  .ofExcept fun _ => wholeToDouble_overflow

theorem nonnegative_faults (invalid : Json → Notice) (v : Json) :
    (nonnegative invalid v).Faults Fault.IsOverflow := by
  cases v with
  | null => exact .pure none
  | int n =>
    rw [nonnegative]
    split
    · exact (wholeToDouble_faults n).map some
    · exact .without _
  | float x =>
    rw [nonnegative]
    split
    · exact .pure _
    · exact .without _
  | _ => exact .without _

theorem side_faults (insets : Config) (name : String) :
    (side insets name).Faults Fault.IsOverflow := by
  unfold side
  split
  · exact .pure _
  · exact wholeToDouble_faults _
  · exact .pure _
  · exact .bind (fun _ h => by cases h) fun _ => .pure _

theorem edgeInsets_faults (v : Json) : (edgeInsets v).Faults Fault.IsOverflow := by
  cases v with
  | null => exact .pure none
  | int n => exact (wholeToDouble_faults n).map _
  | float x => exact .pure _
  | obj insets =>
    exact (side_faults insets "left").bind fun _ => (side_faults insets "top").bind fun _ =>
      (side_faults insets "right").bind fun _ => (side_faults insets "bottom").bind fun _ => .pure _
  | _ => exact .without _

/-- A colour is found or it is not. -/
theorem color_faults (v : Json) : (color v).Faults fun _ => False := by
  cases v with
  | null => exact .pure none
  | str s =>
    rw [color]
    split
    · split
      · exact .pure _
      · exact .without _
    · split
      · exact .pure _
      · exact .without _
  | _ => exact .without _

theorem choice_faults (α : Type) [Choice α] (v : Json) : (choice α v).Faults fun _ => False := by
  cases v with
  | null => exact .pure none
  | str s =>
    rw [choice]
    split
    · exact .pure _
    · exact .without _
  | _ => exact .without _

end Style

namespace Form

/-- Once its child is rendered, a wrapper fails with nothing but a fault with the property; a group
does not fail any more once its items are. -/
def FaultsBehind (form : Form) (P : Fault → Prop) : Prop :=
  match form with
  | wrapper opening => opening.Yields fun closing => closing.Faults P
  | group opening =>
    opening.Yields fun w => ∀ closing, w = some closing → closing.Faults fun _ => False
  | _ => True

namespace FaultsBehind

variable {form : Form} {P Q : Fault → Prop}

theorem mono (h : form.FaultsBehind P) (hPQ : ∀ fault, P fault → Q fault) :
    form.FaultsBehind Q := by
  cases form with
  | wrapper opening => exact fun closing hclosing => (h closing hclosing).mono hPQ
  | group opening => exact h
  | _ => trivial

/-- A node that fails has got no further than its own fields, or to its child. -/
theorem of_content (h : form.FaultsBehind P) {fault : Fault} (hfault : form.content = .error fault) :
    form.reach = .nothing ∨ form.reach = .child ∧ P fault := by
  cases form with
  | still reading => exact .inl rfl
  | field reading => exact .inl rfl
  | input reading =>
    rcases hr : reading.outcome with _ | _ | seed <;> rw [content, hr] at hfault <;> cases hfault
    exact .inl (by rw [reach, hr])
  | wrapper opening =>
    rcases hr : opening.outcome with _ | ⟨notices, _ | w⟩ <;> rw [content, hr] at hfault <;>
      cases hfault
    · exact .inl (by rw [reach, hr])
    · exact .inr ⟨by rw [reach, hr], h _ hr _ rfl⟩
  | group opening =>
    rcases hr : opening.outcome with _ | _ | ⟨notices, _ | g⟩ <;> rw [content, hr] at hfault <;>
      cases hfault
    · exact .inl (by rw [reach, hr])
    · exact (h _ hr _ rfl _ rfl).elim

end FaultsBehind

end Form

section Forms

variable (config : Config) {P : Fault → Prop}

theorem flex_faultsBehind (axis : Axis) :
    (Form.group (Form.flexOpening axis config)).FaultsBehind P := by
  refine .bind fun items _ => ?_
  cases items with
  | none => exact .pure (by simp)
  | some items =>
    refine .pure ?_
    rintro _ ⟨⟩
    exact (Style.choice_faults MainAlignment _).bind fun _ =>
      (Style.choice_faults CrossAlignment _).bind fun _ => .pure _

theorem listView_faultsBehind :
    (Form.group (Form.listOpening config)).FaultsBehind P := by
  refine .bind fun items _ => ?_
  cases items with
  | none => exact .pure (by simp)
  | some items =>
    refine .bind fun shrinkWrap _ => .pure ?_
    rintro _ ⟨⟩
    exact .pure _

theorem container_faultsBehind :
    (Form.wrapper (Form.containerOpening config)).FaultsBehind Fault.IsOverflow :=
  .pure <| (Style.nonnegative_faults _ _).bind fun _ => (Style.nonnegative_faults _ _).bind fun _ =>
    (Style.edgeInsets_faults _).bind fun _ => (Style.edgeInsets_faults _).bind fun _ =>
    ((Style.color_faults _).mono fun _ => False.elim).bind fun _ =>
    (Style.nonnegative_faults _ _).bind fun _ => .pure _

theorem center_faultsBehind : (Form.wrapper Form.centerOpening).FaultsBehind P :=
  .pure (.pure _)

theorem sizedBox_faultsBehind :
    (Form.wrapper (Form.sizedBoxOpening config)).FaultsBehind Fault.IsOverflow :=
  .pure <| (Style.nonnegative_faults _ _).bind fun _ => (Style.nonnegative_faults _ _).bind fun _ =>
    .pure _

theorem card_faultsBehind : (Form.wrapper (Form.cardOpening config)).FaultsBehind P :=
  .bind fun _ _ => .bind fun _ _ => .bind fun _ _ => .pure (.pure _)

end Forms

theorem ofTag?_faultsBehind {images : Option (ImageSource → Report Bool)} {tag : String}
    {config : Config} {form : Form} (h : Form.ofTag? images tag config = some form) :
    form.FaultsBehind fun fault => tag ∈ ["container", "sizedBox"] ∧ fault.IsOverflow := by
  apply ofTag?_cases (motive := fun tag form =>
    form.FaultsBehind fun fault => tag ∈ ["container", "sizedBox"] ∧ fault.IsOverflow) (h := h)
  case column => exact flex_faultsBehind config .vertical
  case row => exact flex_faultsBehind config .horizontal
  case listView => exact listView_faultsBehind config
  case container => exact (container_faultsBehind config).mono fun _ hf => ⟨by decide, hf⟩
  case center => exact center_faultsBehind
  case sizedBox => exact (sizedBox_faultsBehind config).mono fun _ hf => ⟨by decide, hf⟩
  case card => exact card_faultsBehind config
  -- Nothing is rendered below the other ones.
  all_goals trivial

end ServerUi
