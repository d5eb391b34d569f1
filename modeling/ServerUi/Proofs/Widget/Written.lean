import ServerUi.Proofs.Document.Equal
import ServerUi.Proofs.Widget.Bare
import ServerUi.Proofs.Widget.Values

/-! The summary of a tree without the values of its cells: what is left is an object with the kind,
one optional member for each field that is compared, and the children. -/

namespace ServerUi

theorem nonzero?_eq (name : String) (x : Double) :
    nonzero? name x = member? name (unlessNumber .zero x) := by
  rw [nonzero?, unlessNumber, Double.sameNumber_zero]
  cases x.isZero <;> rfl

theorem present_append (fields others : List (String × Option Json)) :
    present (fields ++ others) = present fields ++ present others := by
  induction fields with
  | nil => rfl
  | cons field rest ih =>
    obtain ⟨name, v⟩ := field
    rw [List.cons_append, present, present, ih, List.append_assoc]

namespace Json

theorem withoutMembers_append (names : List String) (members others : Config) :
    withoutMembers names (members ++ others) =
      withoutMembers names members ++ withoutMembers names others := by
  induction members with
  | nil => rfl
  | cons m rest ih =>
    obtain ⟨k, v⟩ := m
    simp only [List.cons_append, withoutMembers, ih]
    split <;> rfl

/-- Nothing is left out of the value. -/
def Lasting (v : Json) : Prop := v.without valueNames = v

def LastingOption (v : Option Json) : Prop := ∀ u ∈ v, Lasting u

/-- Neither is one of the members left out, nor anything in them. -/
def LastingFields (fields : List (String × Option Json)) : Prop :=
  ∀ field ∈ fields, field.1 ∉ valueNames ∧ LastingOption field.2

@[simp] theorem lastingFields_nil : LastingFields [] := nofun

@[simp] theorem lastingFields_cons (name : String) (v : Option Json)
    (rest : List (String × Option Json)) :
    LastingFields ((name, v) :: rest) ↔
      (name ∉ valueNames ∧ LastingOption v) ∧ LastingFields rest :=
  List.forall_mem_cons

theorem withoutMembers_present {fields : List (String × Option Json)} (h : LastingFields fields) :
    withoutMembers valueNames (present fields) = present fields := by
  induction fields with
  | nil => rfl
  | cons field rest ih =>
    obtain ⟨name, v⟩ := field
    obtain ⟨⟨hname, hv⟩, hrest⟩ := (lastingFields_cons name v rest).mp h
    rw [present, withoutMembers_append, ih hrest]
    cases v with
    | none => rfl
    | some v =>
      have hcontains : valueNames.contains name = false := by simpa using hname
      have hlasting : v.without valueNames = v := hv v rfl
      simp only [member?, withoutMembers, hcontains, Bool.false_eq_true, if_false, hlasting]

theorem lasting_obj {fields : List (String × Option Json)} (h : LastingFields fields) :
    Lasting (.obj (present fields)) :=
  congrArg obj (withoutMembers_present h)

theorem withoutAll_eq (names : List String) (items : List Json) :
    withoutAll names items = items.map (without names) := by
  induction items with
  | nil => rfl
  | cons v rest ih => exact congrArg (without names v :: ·) ih

@[simp] theorem lasting_arr {items : List Json} (h : ∀ v ∈ items, Lasting v) :
    Lasting (.arr items) := by
  rw [Lasting, without, withoutAll_eq, List.map_congr_left h, List.map_id']

@[simp] theorem lasting_float (x : Double) : Lasting (.float x) := rfl

@[simp] theorem lasting_str (s : String) : Lasting (.str s) := rfl

@[simp] theorem lasting_bool (b : Bool) : Lasting (.bool b) := rfl

end Json

section Fields

open Json

variable {α : Type} {enc : α → Json}

@[simp] theorem lastingOption_some {v : Json} (h : Lasting v) : LastingOption (some v) := by
  rintro u ⟨⟩
  exact h

@[simp] theorem lastingOption_map (h : ∀ a, Lasting (enc a)) (o : Option α) :
    LastingOption (o.map enc) := by
  intro u hu
  obtain ⟨a, -, rfl⟩ := Option.map_eq_some_iff.mp hu
  exact h a

@[simp] theorem lastingOption_ite (p : Prop) [Decidable p] {v : Json} (h : Lasting v) :
    LastingOption (if p then none else some v) := by
  split
  · nofun
  · exact lastingOption_some h

@[simp] theorem lastingOption_unlessNumber (default x : Double) :
    LastingOption (unlessNumber default x) :=
  lastingOption_ite _ (lasting_float x)

end Fields

def EdgeInsets.traits (e : EdgeInsets) : List (String × Option Json) :=
  [("left", unlessNumber .zero e.left), ("top", unlessNumber .zero e.top),
    ("right", unlessNumber .zero e.right), ("bottom", unlessNumber .zero e.bottom)]

theorem EdgeInsets.summary_eq (e : EdgeInsets) : e.summary = present e.traits := by
  simp only [summary, traits, present, nonzero?_eq, List.append_assoc, List.append_nil]

def TextStyle.traits (s : TextStyle) : List (String × Option Json) :=
  [("font_size", s.size.map .float), ("color", s.color.map Color.json),
    ("font_weight", s.weight.map FontWeight.json), ("font_style", s.slant.map choiceJson)]

theorem TextStyle.summary_eq (s : TextStyle) : s.summary = present s.traits := by
  simp only [summary, traits, present, List.append_assoc, List.append_nil]

def TextSpan.traits (s : TextSpan) : List (String × Option Json) :=
  [("text", some (.str s.text)), ("style", s.style.map fun t => .obj t.summary)]

theorem TextSpan.summary_eq (s : TextSpan) : s.summary = .obj (present s.traits) := by
  simp only [summary, traits, present, member?, List.append_nil, List.singleton_append]

def ErrorFrame.traits (frame : ErrorFrame) : List (String × Option Json) :=
  [("padding", if frame.padding.sameNumbers standard.padding then none
      else some (.obj frame.padding.summary)),
    ("border_color", some (.str frame.border.text)),
    ("border_radius", if frame.radius.sameNumber standard.radius then none
      else some (radiusJson frame.radius)),
    ("icon_size", unlessNumber standard.iconSize frame.iconSize),
    ("font_size", unlessNumber standard.fontSize frame.fontSize)]

theorem map_unless {α β : Type} (p : Prop) [Decidable p] (f : α → β) (a : α) :
    (if p then none else some a).map f = if p then none else some (f a) := by
  split <;> rfl

theorem ErrorFrame.summary_eq (frame : ErrorFrame) : frame.summary = present frame.traits := by
  simp only [summary, traits, present, map_unless, List.append_assoc, List.append_nil]
  rfl

/-- The fields of a leaf that are compared, with nothing for one that has its default. -/
def Leaf.traits : Leaf → List (String × Option Json)
  | .text content style align =>
    [("text", (unlessDefault "" content).map .str), ("style", style.map fun s => .obj s.summary),
      ("text_align", align.map choiceJson)]
  | .richText spans align =>
    [("spans", if spans.isEmpty then none else some (.arr (spans.map TextSpan.summary))),
      ("text_align", (unlessDefault .start align).map choiceJson),
      ("plain_text", some (.str (plainText spans)))]
  | .button content _ => [("text", (unlessDefault "" content).map .str)]
  | .icon glyph size color =>
    [("glyph", (unlessDefault .helpOutline glyph).map choiceJson), ("size", size.map .float),
      ("color", some (colorJson color))]
  | .image source width height fit _ =>
    [("source", (unlessDefault (.asset "") source).map ImageSource.json),
      ("width", width.map .float), ("height", height.map .float), ("fit", fit.map choiceJson)]
  | .textField label hint _ => [("label", label.map .str), ("hint", hint.map .str)]
  | .checkbox label _ => [("label", label.map .str)]
  | .dropdown options label _ =>
    [("options", if options.isEmpty then none else some (.arr (options.map .str))),
      ("label", label.map .str)]
  | .divider height thickness color =>
    [("height", height.map .float), ("thickness", thickness.map .float),
      ("color", some (colorJson color))]
  | .error message frame => ("message", (unlessDefault "" message).map .str) :: frame.traits

def Leaf.shown : Leaf → Config
  | .checkbox _ cell => [("value", .bool (checkedValue cell))]
  | .dropdown options _ cell => [("selected", selectedValue options cell)]
  | _ => []

theorem Leaf.properties_eq (l : Leaf) : l.properties = present l.traits ++ l.shown := by
  cases l <;>
    simp only [properties, traits, shown, present, member?, ErrorFrame.summary_eq,
      List.append_assoc, List.append_nil]

def Wrapper.traits : Wrapper → List (String × Option Json)
  | .container box =>
    [("width", box.width.map .float), ("height", box.height.map .float),
      ("padding", box.padding.map fun e => .obj e.summary),
      ("margin", box.margin.map fun e => .obj e.summary), ("color", some (colorJson box.color)),
      ("border_radius", box.radius.map radiusJson)]
  | .center => []
  | .sizedBox width height => [("width", width.map .float), ("height", height.map .float)]
  | .padding insets =>
    [("padding", if insets.summary.isEmpty then none else some (.obj insets.summary))]
  | .card elevation margin =>
    [("elevation", unlessNumber (.ofNat 1) elevation),
      ("margin", margin.map fun e => .obj e.summary)]

theorem Wrapper.properties_eq (w : Wrapper) : w.properties = present w.traits := by
  cases w <;>
    simp only [properties, traits, present, member?, List.append_assoc, List.append_nil]

def Group.traits : Group → List (String × Option Json)
  | .flex _ main cross =>
    [("main_axis_alignment", (unlessDefault .start main).map choiceJson),
      ("cross_axis_alignment", (unlessDefault .center cross).map choiceJson)]
  | .listView shrinkWrap => [("shrink_wrap", (unlessDefault false shrinkWrap).map .bool)]

theorem Group.properties_eq (g : Group) : g.properties = present g.traits := by
  cases g <;> simp only [properties, traits, present, List.append_nil]

section Lasting

open Json

@[simp] theorem lasting_insets (e : EdgeInsets) : Lasting (.obj e.summary) := by
  rw [EdgeInsets.summary_eq]
  exact lasting_obj (by simp [EdgeInsets.traits, valueNames])

@[simp] theorem lasting_choice {α : Type} [Choice α] (a : α) : Lasting (choiceJson a) := rfl

@[simp] theorem lasting_color (c : Option Color) : Lasting (colorJson c) := by
  cases c <;> rfl

@[simp] theorem lasting_argb (c : Color) : Lasting c.json := rfl

@[simp] theorem lasting_weight (w : FontWeight) : Lasting w.json := rfl

@[simp] theorem lasting_radius (radius : Double) : Lasting (radiusJson radius) := rfl

@[simp] theorem lasting_source (source : ImageSource) : Lasting source.json := rfl

@[simp] theorem lasting_style (s : TextStyle) : Lasting (.obj s.summary) := by
  rw [TextStyle.summary_eq]
  exact lasting_obj (by simp [TextStyle.traits, valueNames])

@[simp] theorem lasting_span (s : TextSpan) : Lasting s.summary := by
  rw [TextSpan.summary_eq]
  exact lasting_obj (by simp [TextSpan.traits, valueNames])

theorem Leaf.lastingFields (l : Leaf) : LastingFields l.traits := by
  cases l <;> simp [traits, ErrorFrame.traits, valueNames]

theorem Wrapper.lastingFields (w : Wrapper) : LastingFields w.traits := by
  cases w <;> simp [traits, valueNames]

theorem Group.lastingFields (g : Group) : LastingFields g.traits := by
  cases g <;> simp [traits, valueNames]

theorem Leaf.withoutMembers_shown (l : Leaf) : withoutMembers valueNames l.shown = [] := by
  cases l <;> rfl

end Lasting

namespace Widget

/-- The fields of the widget itself that are compared. -/
def traits : Widget → List (String × Option Json)
  | leaf l => l.traits
  | wrapper w _ => w.traits
  | group g _ => g.traits

def summaryWithoutValues (w : Widget) : Json := w.summary.without valueNames

end Widget

/-- Kind, fields and what is below, as an object. -/
def entry (kind : String) (traits : List (String × Option Json)) (below : List Json) : Json :=
  .obj (present (("kind", some (.str kind)) :: traits ++
    [("children", if below.isEmpty then none else some (.arr below))]))

/-- What a summary comes to without the values of cells, given what it shows of its own cell. -/
theorem without_entry (kind : String) {traits : List (String × Option Json)} (shown : Config)
    (below : List Json) (htraits : Json.LastingFields traits)
    (hshown : Json.withoutMembers valueNames shown = []) :
    (Json.obj (("kind", .str kind) :: (present traits ++ shown) ++
        member? "children" (if below.isEmpty then none else some (.arr below)))).without valueNames =
      entry kind traits (below.map (Json.without valueNames)) := by
  have hkind (rest : Config) : Json.withoutMembers valueNames (("kind", .str kind) :: rest) =
      ("kind", .str kind) :: Json.withoutMembers valueNames rest := rfl
  have hbelow : Json.withoutMembers valueNames
        (member? "children" (if below.isEmpty then none else some (.arr below))) =
      present [("children", if (below.map (Json.without valueNames)).isEmpty then none
        else some (.arr (below.map (Json.without valueNames))))] := by
    cases below with
    | nil => rfl
    | cons v rest =>
      rw [← Json.withoutAll_eq]
      rfl
  rw [Json.without, List.cons_append, hkind, Json.withoutMembers_append, Json.withoutMembers_append,
    Json.withoutMembers_present htraits, hshown, List.append_nil, hbelow, entry,
    ← present_append]
  rfl

namespace Widget

theorem summaries_eq (ws : List Widget) : summaries ws = ws.map summary := by
  induction ws with
  | nil => rfl
  | cons w rest ih => exact congrArg (summary w :: ·) ih

/-- Without what its cell holds, the summary is the kind, the fields and the children. -/
theorem summaryWithoutValues_eq (w : Widget) :
    w.summaryWithoutValues = entry w.kind w.traits (w.children.map summaryWithoutValues) := by
  have hmap : w.children.map summaryWithoutValues =
      (w.children.map summary).map (Json.without valueNames) := by
    rw [List.map_map]
    rfl
  rw [hmap]
  cases w with
  | leaf l =>
    rw [summaryWithoutValues, summary, Leaf.properties_eq]
    have hleaf := without_entry l.kind l.shown [] l.lastingFields l.withoutMembers_shown
    rwa [List.isEmpty_nil, if_pos rfl, member?, List.append_nil] at hleaf
  | wrapper w child =>
    have hwrapper := without_entry w.kind [] (child.toList.map summary) w.lastingFields rfl
    rw [List.append_nil, ← Wrapper.properties_eq] at hwrapper
    cases child with
    | none =>
      rwa [Option.toList_none, List.map_nil, List.isEmpty_nil, if_pos rfl, member?,
        List.append_nil] at hwrapper
    | some child => exact hwrapper
  | group g children =>
    have hgroup := without_entry g.kind [] (children.map summary) g.lastingFields rfl
    rw [List.append_nil, ← Group.properties_eq, List.isEmpty_map, ← summaries_eq] at hgroup
    rw [← summaries_eq]
    exact hgroup

end Widget

end ServerUi
