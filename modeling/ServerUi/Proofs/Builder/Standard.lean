import ServerUi.Builder.Registry
import ServerUi.Proofs.Builder.Form
import ServerUi.Proofs.Render.Steady

/-! The form of each standard builder. -/

namespace ServerUi

open Style

namespace Form

/-- A row or column needs its array; the alignments are read behind the children. -/
def flexOpening (axis : Axis) (config : Config) : Report (Option (Report Group)) := do
  match ← config.array "children" with
  | none => return none
  | some _ =>
    return some do
      let main ← choice MainAlignment (config.get "mainAxisAlignment")
      let cross ← choice CrossAlignment (config.get "crossAxisAlignment")
      return .flex axis (main.getD .start) (cross.getD .center)

def listOpening (config : Config) : Report (Option (Report Group)) := do
  match ← config.array "children" with
  | none => return none
  | some _ =>
    let shrinkWrap ← config.boolean "shrinkWrap"
    return some (pure (.listView (shrinkWrap.getD false)))

def containerOpening (config : Config) : Report (Report (Wrapper × List Wrapper)) := do
  return do
    let width ← dimension (config.get "width")
    let height ← dimension (config.get "height")
    let padding ← edgeInsets (config.get "padding")
    let margin ← edgeInsets (config.get "margin")
    let color ← color (config.get "color")
    let radius ← borderRadius (config.get "borderRadius")
    return (.container ⟨width, height, padding, margin, color, radius⟩, [])

def centerOpening : Report (Report (Wrapper × List Wrapper)) := pure (pure (.center, []))

def sizedBoxOpening (config : Config) : Report (Report (Wrapper × List Wrapper)) := do
  return do
    let width ← dimension (config.get "width")
    let height ← dimension (config.get "height")
    return (.sizedBox width height, [])

def cardOpening (config : Config) : Report (Report (Wrapper × List Wrapper)) := do
  let elevation ← config.number "elevation"
  let padding ← edgeInsets (config.get "padding")
  let margin ← edgeInsets (config.get "margin")
  return pure (.card (elevation.getD (.ofNat 1)) margin,
    [.padding (padding.getD (.all (.ofNat 8)))])

def textFieldReading (config : Config) : Report (Option String × Option String) := do
  let label ← config.text "label"
  let hint ← config.text "hint"
  return (label, hint)

def checkboxSeed (config : Config) : Report (Option Seed) := do
  let label ← config.text "label"
  let initial ← config.boolean "value"
  return some (.checkbox label (initial.getD false))

def dropdownSeed (config : Config) : Report (Option Seed) := do
  match ← config.array "options" with
  | none | some [] => return none
  | some (item :: items) =>
    let label ← config.text "label"
    return some (.dropdown item.shown (items.map Json.shown) label)

end Form

theorem container_eq (config : Config) :
    Builder.container config = Build.wrapping (Form.containerOpening config) := by
  simp only [Builder.container, Build.wrapping, Form.containerOpening, Build.lift_report,
    Build.ofReport_pure, Build.ofReport_bind, bind_assoc, pure_bind]
  rfl

theorem center_eq (config : Config) :
    Builder.center config = Build.wrapping Form.centerOpening := by
  rfl

theorem sizedBox_eq (config : Config) :
    Builder.sizedBox config = Build.wrapping (Form.sizedBoxOpening config) := by
  simp only [Builder.sizedBox, Build.wrapping, Form.sizedBoxOpening, Build.lift_report,
    Build.ofReport_pure, Build.ofReport_bind, bind_assoc, pure_bind]
  rfl

theorem card_eq (config : Config) :
    Builder.card config = Build.wrapping (Form.cardOpening config) := by
  simp only [Builder.card, Build.wrapping, Form.cardOpening, Build.lift_report, Build.lift_outcome,
    Build.ofReport_pure, Build.ofReport_bind, bind_assoc, pure_bind]
  rfl

theorem flex_eq (axis : Axis) (config : Config) :
    Builder.flex axis config = Build.grouping (Form.flexOpening axis config) := by
  simp only [Builder.flex, Build.grouping, Form.flexOpening, Build.lift_report, Build.lift_outcome,
    Build.ofReport_bind, bind_assoc]
  congr 1
  funext items
  cases items with
  | none => rfl
  | some items =>
    simp only [Build.ofReport_pure, Build.ofReport_bind, bind_assoc, pure_bind]

theorem listView_eq (config : Config) :
    Builder.listView config = Build.grouping (Form.listOpening config) := by
  simp only [Builder.listView, Build.grouping, Form.listOpening, Build.lift_outcome,
    Build.ofReport_bind, bind_assoc]
  congr 1
  funext items
  cases items with
  | none => rfl
  | some items =>
    simp only [Build.ofReport_pure, Build.ofReport_bind, bind_assoc, pure_bind]
    rfl

theorem textField_eq (config : Config) :
    Builder.textField config = Build.naming (Form.textFieldReading config) := by
  simp only [Builder.textField, Build.naming, Form.textFieldReading, Build.lift_outcome,
    Build.ofReport_pure, Build.ofReport_bind, bind_assoc, pure_bind]
  rfl

theorem checkbox_eq (config : Config) :
    Builder.checkbox config = Build.binding (Form.checkboxSeed config) := by
  simp only [Builder.checkbox, Build.binding, Form.checkboxSeed, Build.lift_outcome,
    Build.ofReport_pure, Build.ofReport_bind, bind_assoc, pure_bind]
  rfl

theorem dropdown_eq (config : Config) :
    Builder.dropdown config = Build.binding (Form.dropdownSeed config) := by
  simp only [Builder.dropdown, Build.binding, Form.dropdownSeed, Build.lift_outcome,
    Build.ofReport_bind, bind_assoc]
  congr 1
  funext items
  rcases items with _ | _ | ⟨item, items⟩
  · rfl
  · rfl
  · simp only [Build.ofReport_pure, Build.ofReport_bind, bind_assoc, pure_bind]
    rfl

theorem text_quiet (config : Config) : (Builder.text config).Quiet := by
  refine .bind (.lift _) fun content => ?_
  cases content with
  | none => exact .pure _
  | some content => exact .bind (.ofReport _) fun _ => .bind (.ofReport _) fun _ => .pure _

theorem richText_quiet (config : Config) : (Builder.richText config).Quiet := by
  refine .bind (.lift _) fun items => ?_
  rcases items with _ | _ | ⟨item, items⟩
  · exact .pure _
  · exact .pure _
  · exact .bind (.ofReport _) fun _ => .bind (.ofReport _) fun _ => .pure _

theorem button_quiet (config : Config) : (Builder.button config).Quiet := by
  refine .bind (.lift _) fun content => ?_
  cases content with
  | none => exact .pure _
  | some content => exact .pure _

theorem image_quiet (config : Config) : (Builder.image config).Quiet := by
  refine .bind (.lift _) fun source => ?_
  cases source with
  | none => exact .pure _
  | some source =>
    refine .bind (.ofReport _) fun width => .bind (.ofReport _) fun height =>
      .bind (.isLoadable source) fun loads => ?_
    cases loads with
    | false => exact .pure _
    | true => exact .bind (.ofReport _) fun _ => .pure _

theorem icon_quiet (config : Config) : (Builder.icon config).Quiet := by
  refine .bind (.lift _) fun name => ?_
  cases name with
  | none => exact .pure _
  | some name =>
    exact .bind (.ofReport _) fun _ => .bind (.ofReport _) fun _ => .bind (.ofReport _) fun _ =>
      .pure _

theorem divider_quiet (config : Config) : (Builder.divider config).Quiet :=
  .bind (.ofReport _) fun _ => .bind (.ofReport _) fun _ => .bind (.ofReport _) fun _ => .pure _

def Form.stillBuilders : List (String × Builder) :=
  [("text", Builder.text), ("richText", Builder.richText), ("button", Builder.button),
    ("image", Builder.image), ("icon", Builder.icon), ("divider", Builder.divider)]

/-- The form of a node type, if there is a standard builder for it. -/
def Form.ofTag? (images : Option (ImageSource → Report Bool)) (tag : String) (config : Config) :
    Option Form :=
  match tag with
  | "column" => some (.group (flexOpening .vertical config))
  | "row" => some (.group (flexOpening .horizontal config))
  | "listView" => some (.group (listOpening config))
  | "container" => some (.wrapper (containerOpening config))
  | "center" => some (.wrapper centerOpening)
  | "sizedBox" => some (.wrapper (sizedBoxOpening config))
  | "card" => some (.wrapper (cardOpening config))
  | "textField" => some (.field (textFieldReading config))
  | "checkbox" => some (.input (checkboxSeed config))
  | "dropdown" => some (.input (dropdownSeed config))
  | tag => (stillBuilders.lookup tag).map fun b => Form.still ((b config).reading images)

/-- The node types that have a form, one by one. -/
theorem ofTag?_cases {images : Option (ImageSource → Report Bool)} {config : Config}
    {motive : String → Form → Prop}
    (column : motive "column" (.group (Form.flexOpening .vertical config)))
    (row : motive "row" (.group (Form.flexOpening .horizontal config)))
    (listView : motive "listView" (.group (Form.listOpening config)))
    (container : motive "container" (.wrapper (Form.containerOpening config)))
    (center : motive "center" (.wrapper Form.centerOpening))
    (sizedBox : motive "sizedBox" (.wrapper (Form.sizedBoxOpening config)))
    (card : motive "card" (.wrapper (Form.cardOpening config)))
    (textField : motive "textField" (.field (Form.textFieldReading config)))
    (checkbox : motive "checkbox" (.input (Form.checkboxSeed config)))
    (dropdown : motive "dropdown" (.input (Form.dropdownSeed config)))
    (text : motive "text" (.still ((Builder.text config).reading images)))
    (richText : motive "richText" (.still ((Builder.richText config).reading images)))
    (button : motive "button" (.still ((Builder.button config).reading images)))
    (image : motive "image" (.still ((Builder.image config).reading images)))
    (icon : motive "icon" (.still ((Builder.icon config).reading images)))
    (divider : motive "divider" (.still ((Builder.divider config).reading images)))
    {tag : String} {form : Form} (h : Form.ofTag? images tag config = some form) :
    motive tag form := by
  unfold Form.ofTag? at h
  split at h
  case h_1 => exact Option.some.inj h ▸ column
  case h_2 => exact Option.some.inj h ▸ row
  case h_3 => exact Option.some.inj h ▸ listView
  case h_4 => exact Option.some.inj h ▸ container
  case h_5 => exact Option.some.inj h ▸ center
  case h_6 => exact Option.some.inj h ▸ sizedBox
  case h_7 => exact Option.some.inj h ▸ card
  case h_8 => exact Option.some.inj h ▸ textField
  case h_9 => exact Option.some.inj h ▸ checkbox
  case h_10 => exact Option.some.inj h ▸ dropdown
  case h_11 =>
    obtain ⟨b, hb, rfl⟩ := Option.map_eq_some_iff.mp h
    have hmem := mem_of_lookup hb
    simp only [Form.stillBuilders, List.mem_cons, List.not_mem_nil, or_false, Prod.mk.injEq] at hmem
    rcases hmem with ⟨rfl, rfl⟩ | ⟨rfl, rfl⟩ | ⟨rfl, rfl⟩ | ⟨rfl, rfl⟩ | ⟨rfl, rfl⟩ | ⟨rfl, rfl⟩
    · exact text
    · exact richText
    · exact button
    · exact image
    · exact icon
    · exact divider

theorem still_subset : Form.stillBuilders ⊆ Registry.standard.entries := by
  simp [Form.stillBuilders, Registry.standard]

theorem ofTag?_runs (images : Option (ImageSource → Report Bool)) {tag : String} {b : Builder}
    (h : Registry.standard.lookup tag = some b) (config : Config) :
    ∃ form, Form.ofTag? images tag config = some form ∧ form.Runs images (b config) config := by
  have hmem := mem_of_lookup h
  simp only [Registry.standard, List.mem_cons, List.not_mem_nil, or_false, Prod.mk.injEq] at hmem
  rcases hmem with ⟨rfl, rfl⟩ | ⟨rfl, rfl⟩ | ⟨rfl, rfl⟩ | ⟨rfl, rfl⟩ | ⟨rfl, rfl⟩ | ⟨rfl, rfl⟩ |
    ⟨rfl, rfl⟩ | ⟨rfl, rfl⟩ | ⟨rfl, rfl⟩ | ⟨rfl, rfl⟩ | ⟨rfl, rfl⟩ | ⟨rfl, rfl⟩ | ⟨rfl, rfl⟩ |
    ⟨rfl, rfl⟩ | ⟨rfl, rfl⟩ | ⟨rfl, rfl⟩
  · exact ⟨_, rfl, runs_quiet images config (text_quiet config)⟩
  · exact ⟨_, rfl, runs_quiet images config (richText_quiet config)⟩
  · exact ⟨_, rfl, runs_quiet images config (button_quiet config)⟩
  · exact ⟨_, rfl, runs_quiet images config (image_quiet config)⟩
  · exact ⟨_, rfl, runs_quiet images config (icon_quiet config)⟩
  · exact ⟨_, rfl, flex_eq .vertical config ▸ runs_grouping images config _⟩
  · exact ⟨_, rfl, flex_eq .horizontal config ▸ runs_grouping images config _⟩
  · exact ⟨_, rfl, container_eq config ▸ runs_wrapping images config _⟩
  · exact ⟨_, rfl, center_eq config ▸ runs_wrapping images config _⟩
  · exact ⟨_, rfl, sizedBox_eq config ▸ runs_wrapping images config _⟩
  · exact ⟨_, rfl, card_eq config ▸ runs_wrapping images config _⟩
  · exact ⟨_, rfl, textField_eq config ▸ runs_naming images config _⟩
  · exact ⟨_, rfl, checkbox_eq config ▸ runs_binding images config _⟩
  · exact ⟨_, rfl, dropdown_eq config ▸ runs_binding images config _⟩
  · exact ⟨_, rfl, listView_eq config ▸ runs_grouping images config _⟩
  · exact ⟨_, rfl, runs_quiet images config (divider_quiet config)⟩

theorem ofTag?_eq_none (images : Option (ImageSource → Report Bool)) {tag : String}
    (h : Registry.standard.lookup tag = none) (config : Config) :
    Form.ofTag? images tag config = none := by
  unfold Form.ofTag?
  split
  case h_11 =>
    have hstill : Form.stillBuilders.lookup tag = none :=
      List.lookup_eq_none_iff.mpr fun m hm => List.lookup_eq_none_iff.mp h m (still_subset hm)
    rw [hstill, Option.map_none]
  all_goals exact absurd h (by decide)

theorem lookup_of_ofTag?_none {images : Option (ImageSource → Report Bool)} {tag : String}
    {config : Config} (h : Form.ofTag? images tag config = none) :
    Registry.standard.lookup tag = none := by
  cases hb : Registry.standard.lookup tag with
  | none => rfl
  | some b =>
    obtain ⟨form, hform, _⟩ := ofTag?_runs images hb config
    rw [h] at hform
    cases hform

end ServerUi
