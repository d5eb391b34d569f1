import ServerUi.Proofs.Json.Printed
import ServerUi.Proofs.Widget.Shown

/-! The summary of a sound tree can be written and read again: no two members of an object share
their name, its whole numbers are short, and its doubles are among the numbers of the widgets. -/

namespace ServerUi

variable {P : Double → Prop}

theorem mem_of_mem_present {fields : List (String × Option Json)} {m : String × Json}
    (h : m ∈ present fields) : (m.1, some m.2) ∈ fields := by
  induction fields with
  | nil => cases h
  | cons field rest ih =>
    obtain ⟨name, v⟩ := field
    rcases List.mem_append.mp h with hfirst | hlater
    · cases v with
      | none => cases hfirst
      | some v =>
        rw [List.mem_singleton.mp hfirst]
        exact List.mem_cons_self
    · exact List.mem_cons_of_mem _ (ih hlater)

theorem names_present_sublist (fields : List (String × Option Json)) :
    ((present fields).map Prod.fst).Sublist (fields.map Prod.fst) := by
  induction fields with
  | nil => exact .slnil
  | cons field rest ih =>
    obtain ⟨name, v⟩ := field
    cases v with
    | none => exact ih.cons name
    | some v => exact ih.cons_cons name

theorem present_map_some (members : Config) :
    present (members.map fun m => (m.1, some m.2)) = members := by
  induction members with
  | nil => rfl
  | cons m rest ih => exact congrArg (m :: ·) ih

namespace Json

def WritableFields (P : Double → Prop) (fields : List (String × Option Json)) : Prop :=
  ∀ field ∈ fields, ∀ v ∈ field.2, Writable P v

@[simp] theorem writableFields_nil : WritableFields P [] := nofun

@[simp] theorem writableFields_cons (name : String) (v : Option Json)
    (rest : List (String × Option Json)) :
    WritableFields P ((name, v) :: rest) ↔ (∀ u ∈ v, Writable P u) ∧ WritableFields P rest :=
  List.forall_mem_cons

@[simp] theorem writableFields_append (fields others : List (String × Option Json)) :
    WritableFields P (fields ++ others) ↔ WritableFields P fields ∧ WritableFields P others :=
  List.forall_mem_append

theorem writable_present (fields : List (String × Option Json))
    (hnames : (fields.map Prod.fst).Nodup) (h : WritableFields P fields) :
    Writable P (.obj (present fields)) :=
  .obj (hnames.sublist (names_present_sublist fields)) fun _ hm =>
    h _ (mem_of_mem_present hm) _ rfl

theorem writable_some {v : Json} (h : Writable P v) : ∀ u ∈ some v, Writable P u := by
  rintro _ ⟨⟩
  exact h

theorem writable_map {α : Type} {enc : α → Json} {o : Option α} (h : ∀ a ∈ o, Writable P (enc a)) :
    ∀ u ∈ o.map enc, Writable P u := by
  intro u hu
  obtain ⟨a, ha, rfl⟩ := Option.map_eq_some_iff.mp hu
  exact h a ha

theorem writable_unless (p : Prop) [Decidable p] {v : Json} (h : Writable P v) :
    ∀ u ∈ (if p then none else some v), Writable P u := by
  split
  · nofun
  · exact writable_some h

theorem writable_texts (o : Option String) : ∀ u ∈ o.map .str, Writable P u :=
  writable_map fun s _ => .str s

theorem writable_numbers {o : Option Double} (h : ∀ x ∈ o, P x) :
    ∀ u ∈ o.map .float, Writable P u :=
  writable_map fun x hx => .float (h x hx)

theorem writable_choices {α : Type} [Choice α] (o : Option α) :
    ∀ u ∈ o.map choiceJson, Writable P u :=
  writable_map fun a _ => .str (Choice.name a)

theorem writable_number (default : Double) {x : Double} (h : P x) :
    ∀ u ∈ unlessNumber default x, Writable P u :=
  writable_unless _ (.float h)

theorem writable_color (color : Option Color) : Writable P (colorJson color) := by
  cases color with
  | none => exact .null
  | some c => exact .str c.text

theorem writable_radius {radius : Double} (h : P radius) : Writable P (radiusJson radius) :=
  writable_present [("radius", some (.float radius))] (by simp)
    (by simp [Writable.float h])

theorem writable_small {n : Nat} (h : n < tenPower 10) : Writable P (.int n) :=
  .int (Nat.lt_of_lt_of_le h (tenPower_le (by decide)))

theorem writable_argb {c : Color} (h : c.InRange) : Writable P c.json := by
  obtain ⟨hlow, hhigh⟩ := h
  have hten : tenPower 10 = 10000000000 := rfl
  have hsmall := writable_small (P := P) (n := c.argb.toNat) (by omega)
  rw [Int.toNat_of_nonneg hlow] at hsmall
  exact writable_present [("argb", some (.int c.argb))] (by simp) (by simp [hsmall])

theorem writable_weight (w : FontWeight) : Writable P w.json := by
  have hten : tenPower 10 = 10000000000 := rfl
  have hvalue : w.value ≤ 900 := by
    have hstep := w.step.isLt
    rw [FontWeight.value]
    omega
  exact writable_small (by omega)

theorem writable_source (source : ImageSource) : Writable P source.json :=
  writable_present [("kind", some (.str source.kind)), ("location", some (.str source.location))]
    (by simp) (by simp [Writable.str])

theorem writable_insets {e : EdgeInsets} (h : e.Sound P) : Writable P (.obj e.summary) := by
  rw [EdgeInsets.summary_eq]
  refine writable_present _ (by simp [EdgeInsets.traits]) ?_
  simp only [EdgeInsets.traits, writableFields_cons, writableFields_nil, and_true]
  exact ⟨writable_number _ h.left, writable_number _ h.top, writable_number _ h.right,
    writable_number _ h.bottom⟩

theorem writable_style {s : TextStyle} (h : s.Sound P) : Writable P (.obj s.summary) := by
  rw [TextStyle.summary_eq]
  refine writable_present _ (by simp [TextStyle.traits]) ?_
  simp only [TextStyle.traits, writableFields_cons, writableFields_nil, and_true]
  exact ⟨writable_numbers h.size, writable_map fun c hc => writable_argb (h.color c hc),
    writable_map fun w _ => writable_weight w, writable_choices s.slant⟩

theorem writable_span {s : TextSpan} (h : s.Sound P) : Writable P s.summary := by
  rw [TextSpan.summary_eq]
  refine writable_present _ (by simp [TextSpan.traits]) ?_
  simp only [TextSpan.traits, writableFields_cons, writableFields_nil, and_true]
  exact ⟨writable_some (.str s.text), writable_map fun t ht => writable_style (h t ht)⟩

end Json

open Json

theorem ErrorFrame.Sound.writable {frame : ErrorFrame} (h : frame.Sound P) :
    WritableFields P frame.traits := by
  simp only [ErrorFrame.traits, writableFields_cons, writableFields_nil, and_true]
  exact ⟨writable_unless _ (writable_insets h.padding), writable_some (.str frame.border.text),
    writable_unless _ (writable_radius h.radius), writable_number _ h.iconSize,
    writable_number _ h.fontSize⟩

theorem Leaf.Sound.writable {l : Leaf} (h : l.Sound P) : WritableFields P l.traits := by
  cases l <;> simp only [traits, writableFields_cons, writableFields_nil, and_true]
  case text content style align =>
    exact ⟨writable_texts _, writable_map fun s hs => writable_style (h s hs),
      writable_choices align⟩
  case richText spans align =>
    have hspans : Writable P (.arr (spans.map TextSpan.summary)) :=
      .arr (List.forall_mem_map.mpr fun s hs => writable_span (h s hs))
    exact ⟨writable_unless _ hspans, writable_choices _, writable_some (.str _)⟩
  case button content action => exact writable_texts _
  case icon glyph size color =>
    exact ⟨writable_choices _, writable_numbers h.1, writable_some (writable_color color)⟩
  case image source width height fit placeholder =>
    exact ⟨writable_map fun s _ => writable_source s, writable_numbers h.1, writable_numbers h.2.1,
      writable_choices fit⟩
  case textField label hint key => exact ⟨writable_texts label, writable_texts hint⟩
  case checkbox label cell => exact writable_texts label
  case dropdown options label cell =>
    have hoptions : Writable P (.arr (options.map .str)) :=
      .arr (List.forall_mem_map.mpr fun s _ => .str s)
    exact ⟨writable_unless _ hoptions, writable_texts label⟩
  case divider height thickness color =>
    exact ⟨writable_numbers h.1, writable_numbers h.2.1, writable_some (writable_color color)⟩
  case error message frame => exact ⟨writable_texts _, ErrorFrame.Sound.writable h⟩

theorem Leaf.Sound.writable_shown {l : Leaf} (h : l.Sound P) : ∀ m ∈ l.shown, Writable P m.2 := by
  cases l with
  | checkbox label cell => exact List.forall_mem_singleton.mpr (.bool _)
  | dropdown options label cell =>
    refine List.forall_mem_singleton.mpr ?_
    cases cell with
    | none => cases options <;> constructor
    | some cell =>
      obtain ⟨s, hs⟩ := h cell rfl
      rw [selectedValue, hs]
      exact .str s
  | _ => nofun

theorem Wrapper.Sound.writable {w : Wrapper} (h : w.Sound P) : WritableFields P w.traits := by
  cases w <;> simp only [traits, writableFields_cons, writableFields_nil, and_true]
  case container box =>
    exact ⟨writable_numbers h.width, writable_numbers h.height,
      writable_map fun e he => writable_insets (h.padding e he),
      writable_map fun e he => writable_insets (h.margin e he),
      writable_some (writable_color box.color),
      writable_map fun x hx => writable_radius (h.radius x hx)⟩
  case sizedBox width height => exact ⟨writable_numbers h.1, writable_numbers h.2⟩
  case padding insets => exact writable_unless _ (writable_insets h)
  case card elevation margin =>
    exact ⟨writable_number _ h.1, writable_map fun e he => writable_insets (h.2 e he)⟩

theorem Group.writable (g : Group) : WritableFields P g.traits := by
  cases g <;> simp only [traits, writableFields_cons, writableFields_nil, and_true]
  case flex axis main cross => exact ⟨writable_choices _, writable_choices _⟩
  case listView shrinkWrap => exact writable_map fun b _ => .bool b

/-- What is written below a kind: the fields and the values that are there, and the children. -/
theorem writable_node (kind : String) {traits : List (String × Option Json)} (shown : Config)
    (below : List Json)
    (hnames : ("kind" :: traits.map Prod.fst ++ (shown.map Prod.fst ++ ["children"])).Nodup)
    (htraits : WritableFields P traits) (hshown : ∀ m ∈ shown, Writable P m.2)
    (hbelow : ∀ v ∈ below, Writable P v) :
    Writable P (.obj (("kind", .str kind) :: (present traits ++ shown) ++
      member? "children" (if below.isEmpty then none else some (.arr below)))) := by
  -- All members together are those of one list of fields, in which no name occurs twice.
  have hpresent : ("kind", .str kind) :: (present traits ++ shown) ++
        member? "children" (if below.isEmpty then none else some (.arr below)) =
      present (("kind", some (.str kind)) :: traits ++ (shown.map (fun m => (m.1, some m.2)) ++
        [("children", if below.isEmpty then none else some (.arr below))])) := by
    simp only [List.cons_append, present, present_append, present_map_some, List.append_assoc,
      List.append_nil, member?, List.nil_append]
  rw [hpresent]
  refine writable_present _ (by simpa [Function.comp_def] using hnames) ?_
  simp only [List.cons_append, writableFields_cons, writableFields_append, writableFields_nil,
    and_true]
  refine ⟨writable_some (.str kind), htraits, ?_, writable_unless _ (.arr hbelow)⟩
  exact List.forall_mem_map.mpr fun m hm => writable_some (hshown m hm)

theorem Leaf.nodup_shown (l : Leaf) :
    ("kind" :: l.traits.map Prod.fst ++ (l.shown.map Prod.fst ++ ["children"])).Nodup := by
  cases l <;> simp [traits, shown, ErrorFrame.traits]

/-- The summary of a sound tree can be written and read again. -/
theorem Widget.Sound.writable {w : Widget} (h : w.Sound P) : Writable P w.summary := by
  induction h with
  | @leaf l h =>
    have hnode := writable_node l.kind l.shown [] l.nodup_shown h.writable h.writable_shown
      fun v hv => absurd hv List.not_mem_nil
    rw [summary_eq]
    rwa [← Leaf.properties_eq] at hnode
  | @wrapper w child h _ ih =>
    have hnode := writable_node w.kind [] _ w.nodup_names h.writable nofun
      (List.forall_mem_map.mpr fun c hc => ih c (Option.mem_toList.mp hc))
    rw [summary_eq]
    rwa [List.append_nil, ← Wrapper.properties_eq, List.isEmpty_map] at hnode
  | @group g children _ ih =>
    have hnode := writable_node g.kind [] _ g.nodup_names g.writable nofun
      (List.forall_mem_map.mpr ih)
    rw [summary_eq]
    rwa [List.append_nil, ← Group.properties_eq, List.isEmpty_map] at hnode

end ServerUi
