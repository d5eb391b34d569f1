import ServerUi.Proofs.Builder.Matched
import ServerUi.Proofs.Style.Fields
import ServerUi.Proofs.Widget.Setters

/-! What a standard builder makes of a node in which one of its style fields reads as another value:
the same widget, but for the property that the field sets. A builder reads its fields one after
another, and each of them is told apart by its place among them. -/

namespace ServerUi

open Style

/-- Forms that come to the same, but for a change of the widget. -/
inductive Form.Restyled (g : Widget → Widget) : Form → Form → Prop where
  | still {r r' : Report (Option Widget)} (h : r.Matched (fun w w' => w' = w.map g) r') :
      Restyled g (.still r) (.still r')
  | wrapper {r r' : Report (Report (Wrapper × List Wrapper))}
      (h : r.Matched (Report.Matched fun w w' => ∀ child,
        Widget.wrapper w'.1 (nested w'.2 child) = g (.wrapper w.1 (nested w.2 child))) r') :
      Restyled g (.wrapper r) (.wrapper r')
  | group {r r' : Report (Option (Report Group))}
      (h : r.Matched (Option.Rel (Report.Matched fun w w' => ∀ children,
        Widget.group w' children = g (.group w children))) r') :
      Restyled g (.group r) (.group r')

theorem Form.Restyled.exists_content {g : Widget → Widget} {form form' : Form}
    (h : form.Restyled g form') {c : Content} (hc : form.content = .ok (some c)) :
    ∃ c', form'.content = .ok (some c') ∧ c'.reach = c.reach ∧ ∀ key value child items,
      c'.widget key value child items = g (c.widget key value child items) := by
  cases h with
  | @still r r' h =>
    rcases hr : r.outcome with _ | _ | w <;> rw [content, hr] at hc <;> cases hc
    obtain ⟨_, hr', rfl⟩ := h _ hr
    refine ⟨.still (g w), ?_, rfl, fun _ _ _ _ => rfl⟩
    rw [content, hr']
    rfl
  | @wrapper r r' h =>
    rcases hr : r.outcome with _ | ⟨notices, _ | w⟩ <;> rw [content, hr] at hc <;> cases hc
    obtain ⟨closing, hr', hclosing⟩ := h _ hr
    obtain ⟨w', hw', hsame⟩ := hclosing w rfl
    refine ⟨.wrapper w'.1 w'.2, ?_, rfl, fun _ _ child _ => hsame child⟩
    rw [content, hr', ok_bind, hw']
    rfl
  | @group r r' h =>
    rcases hr : r.outcome with _ | _ | ⟨notices, _ | w⟩ <;> rw [content, hr] at hc <;> cases hc
    obtain ⟨_, hr', hsome⟩ := h _ hr
    cases hsome with
    | @some _ closing hclosing =>
      obtain ⟨w', hw', hsame⟩ := hclosing w rfl
      refine ⟨.group w', ?_, rfl, fun _ _ _ items => hsame items⟩
      rw [content, hr', ok_bind]
      dsimp only
      rw [hw']
      rfl

/-- The style fields that the builder of a node type reads from the node itself. -/
inductive StyleField.Own : String → String → {α : Type} → StyleField Widget α → Prop where
  | textStyle : Own "text" "style" ⟨textStyle, none, Widget.setStyle⟩
  | textAlign : Own "text" "textAlign" ⟨choice TextAlign, none, Widget.setAlign⟩
  | richTextAlign : Own "richText" "textAlign" ⟨choice TextAlign, none, Widget.setAlign⟩
  | imageWidth : Own "image" "width" ⟨dimension, none, Widget.setImageWidth⟩
  | imageHeight : Own "image" "height" ⟨dimension, none, Widget.setImageHeight⟩
  | imageFit : Own "image" "fit" ⟨choice BoxFit, none, Widget.setFit⟩
  | iconSize : Own "icon" "size" ⟨dimension, none, Widget.setSize⟩
  | iconColor : Own "icon" "color" ⟨color, none, Widget.setColor⟩
  | dividerHeight : Own "divider" "height" ⟨dimension, none, Widget.setHeight⟩
  | dividerThickness : Own "divider" "thickness" ⟨dimension, none, Widget.setThickness⟩
  | dividerColor : Own "divider" "color" ⟨color, none, Widget.setColor⟩
  | columnMain : Own "column" "mainAxisAlignment" ⟨choice MainAlignment, none, Widget.setMain⟩
  | columnCross : Own "column" "crossAxisAlignment" ⟨choice CrossAlignment, none, Widget.setCross⟩
  | rowMain : Own "row" "mainAxisAlignment" ⟨choice MainAlignment, none, Widget.setMain⟩
  | rowCross : Own "row" "crossAxisAlignment" ⟨choice CrossAlignment, none, Widget.setCross⟩
  | containerWidth : Own "container" "width" ⟨dimension, none, Widget.setWidth⟩
  | containerHeight : Own "container" "height" ⟨dimension, none, Widget.setHeight⟩
  | containerPadding : Own "container" "padding" ⟨edgeInsets, none, Widget.setPadding⟩
  | containerMargin : Own "container" "margin" ⟨edgeInsets, none, Widget.setMargin⟩
  | containerColor : Own "container" "color" ⟨color, none, Widget.setColor⟩
  | containerRadius : Own "container" "borderRadius" ⟨borderRadius, none, Widget.setRadius⟩
  | sizedBoxWidth : Own "sizedBox" "width" ⟨dimension, none, Widget.setWidth⟩
  | sizedBoxHeight : Own "sizedBox" "height" ⟨dimension, none, Widget.setHeight⟩
  | cardPadding : Own "card" "padding" ⟨edgeInsets, none, Widget.setPadding⟩
  | cardMargin : Own "card" "margin" ⟨edgeInsets, none, Widget.setMargin⟩

namespace StyleField.Own

variable {α : Type} {tag key : String} {field : StyleField Widget α}

theorem read_null (h : Own tag key field) : (field.read .null).outcome = .ok field.unset := by
  cases h <;> rfl

/-- The members of a node that are no style values. -/
def plainKeys : List String :=
  ["type", "id", "child", "children", "spans", "text", "url", "asset", "icon", "elevation"]

theorem keeps (h : Own tag key field) {config other : Config} (hother : config.Apart key other)
    (k : String) (hk : k ∈ plainKeys) : other.get k = config.get k := by
  have hkey : key ∉ plainKeys := by
    cases h <;> decide
  exact hother k fun heq => hkey (heq ▸ hk)

section Restyled

variable {images : Option (ImageSource → Report Bool)} {config other : Config} {a : α}
  (h : Own tag key field) (hother : config.Apart key other)
  (ha : (field.read (other.get key)).outcome = .ok a)

include h hother ha

theorem text_restyled (htag : tag = "text") :
    (Builder.text config).Matched images (fun w w' => w' = w.map (field.set a))
      (Builder.text other) := by
  simp (disch := decide) only [Builder.text, Config.text, h.keeps hother]
  refine .same fun content => ?_
  cases content with
  | none => exact .pure rfl
  | some content =>
    cases h with
    | textStyle =>
      simp (disch := decide) only [hother _]
      exact .read ha fun _ => .same fun _ => .pure rfl
    | textAlign =>
      simp (disch := decide) only [hother _]
      exact .same fun _ => .read ha fun _ => .pure rfl
    | _ => exact absurd htag (by decide)

theorem richText_restyled (htag : tag = "richText") :
    (Builder.richText config).Matched images (fun w w' => w' = w.map (field.set a))
      (Builder.richText other) := by
  simp (disch := decide) only [Builder.richText, Config.array, h.keeps hother]
  refine .same fun items => ?_
  rcases items with _ | _ | ⟨item, items⟩
  · exact .pure rfl
  · exact .pure rfl
  · cases h with
    | richTextAlign => exact .same fun _ => .read ha fun _ => .pure rfl
    | _ => exact absurd htag (by decide)

theorem image_restyled (htag : tag = "image") :
    (Builder.image config).Matched images (fun w w' => w' = w.map (field.set a))
      (Builder.image other) := by
  simp (disch := decide) only [Builder.image, Builder.imageSource, Config.text, h.keeps hother]
  refine .same fun source => ?_
  cases source with
  | none => exact .pure rfl
  | some source =>
    cases h with
    | imageWidth =>
      simp (disch := decide) only [hother _]
      refine .read ha fun _ => .same fun _ => .same fun loads => ?_
      cases loads with
      | false => exact .pure rfl
      | true => exact .same fun _ => .pure rfl
    | imageHeight =>
      simp (disch := decide) only [hother _]
      refine .same fun _ => .read ha fun _ => .same fun loads => ?_
      cases loads with
      | false => exact .pure rfl
      | true => exact .same fun _ => .pure rfl
    | imageFit =>
      simp (disch := decide) only [hother _]
      refine .same fun _ => .same fun _ => .same fun loads => ?_
      cases loads with
      | false => exact .pure rfl
      | true => exact .read ha fun _ => .pure rfl
    | _ => exact absurd htag (by decide)

theorem icon_restyled (htag : tag = "icon") :
    (Builder.icon config).Matched images (fun w w' => w' = w.map (field.set a))
      (Builder.icon other) := by
  simp (disch := decide) only [Builder.icon, Config.text, h.keeps hother]
  refine .same fun name => ?_
  cases name with
  | none => exact .pure rfl
  | some name =>
    refine .same fun glyph => ?_
    cases h with
    | iconSize =>
      simp (disch := decide) only [hother _]
      exact .read ha fun _ => .same fun _ => .pure rfl
    | iconColor =>
      simp (disch := decide) only [hother _]
      exact .same fun _ => .read ha fun _ => .pure rfl
    | _ => exact absurd htag (by decide)

theorem divider_restyled (htag : tag = "divider") :
    (Builder.divider config).Matched images (fun w w' => w' = w.map (field.set a))
      (Builder.divider other) := by
  rw [Builder.divider, Builder.divider]
  cases h with
  | dividerHeight =>
    simp (disch := decide) only [hother _]
    exact .read ha fun _ => .same fun _ => .same fun _ => .pure rfl
  | dividerThickness =>
    simp (disch := decide) only [hother _]
    exact .same fun _ => .read ha fun _ => .same fun _ => .pure rfl
  | dividerColor =>
    simp (disch := decide) only [hother _]
    exact .same fun _ => .same fun _ => .read ha fun _ => .pure rfl
  | _ => exact absurd htag (by decide)

theorem flex_restyled (axis : Axis) (htag : tag = (Group.flex axis .start .center).kind) :
    (Form.group (Form.flexOpening axis config)).Restyled (field.set a)
      (.group (Form.flexOpening axis other)) := by
  simp (disch := decide) only [Form.flexOpening, Config.array, h.keeps hother]
  refine .group (.same fun items => ?_)
  cases items with
  | none => exact .pure .none
  | some items =>
    refine .pure (.some ?_)
    cases h with
    | columnMain | rowMain =>
      simp (disch := decide) only [hother _]
      exact .read ha fun _ => .same fun _ => .pure fun _ => rfl
    | columnCross | rowCross =>
      simp (disch := decide) only [hother _]
      exact .same fun _ => .read ha fun _ => .pure fun _ => rfl
    | _ => cases axis <;> exact absurd htag (by decide)

theorem container_restyled (htag : tag = "container") :
    (Form.wrapper (Form.containerOpening config)).Restyled (field.set a)
      (.wrapper (Form.containerOpening other)) := by
  refine .wrapper (.pure ?_)
  cases h with
  | containerWidth =>
    simp (disch := decide) only [hother _]
    exact .read ha fun _ => .same fun _ => .same fun _ => .same fun _ => .same fun _ =>
      .same fun _ => .pure fun _ => rfl
  | containerHeight =>
    simp (disch := decide) only [hother _]
    exact .same fun _ => .read ha fun _ => .same fun _ => .same fun _ => .same fun _ =>
      .same fun _ => .pure fun _ => rfl
  | containerPadding =>
    simp (disch := decide) only [hother _]
    exact .same fun _ => .same fun _ => .read ha fun _ => .same fun _ => .same fun _ =>
      .same fun _ => .pure fun _ => rfl
  | containerMargin =>
    simp (disch := decide) only [hother _]
    exact .same fun _ => .same fun _ => .same fun _ => .read ha fun _ => .same fun _ =>
      .same fun _ => .pure fun _ => rfl
  | containerColor =>
    simp (disch := decide) only [hother _]
    exact .same fun _ => .same fun _ => .same fun _ => .same fun _ => .read ha fun _ =>
      .same fun _ => .pure fun _ => rfl
  | containerRadius =>
    simp (disch := decide) only [hother _]
    exact .same fun _ => .same fun _ => .same fun _ => .same fun _ => .same fun _ =>
      .read ha fun _ => .pure fun _ => rfl
  | _ => exact absurd htag (by decide)

theorem sizedBox_restyled (htag : tag = "sizedBox") :
    (Form.wrapper (Form.sizedBoxOpening config)).Restyled (field.set a)
      (.wrapper (Form.sizedBoxOpening other)) := by
  refine .wrapper (.pure ?_)
  cases h with
  | sizedBoxWidth =>
    simp (disch := decide) only [hother _]
    exact .read ha fun _ => .same fun _ => .pure fun _ => rfl
  | sizedBoxHeight =>
    simp (disch := decide) only [hother _]
    exact .same fun _ => .read ha fun _ => .pure fun _ => rfl
  | _ => exact absurd htag (by decide)

theorem card_restyled (htag : tag = "card") :
    (Form.wrapper (Form.cardOpening config)).Restyled (field.set a)
      (.wrapper (Form.cardOpening other)) := by
  simp (disch := decide) only [Form.cardOpening, Config.number, h.keeps hother]
  refine .wrapper (.same fun elevation => ?_)
  cases h with
  | cardPadding =>
    simp (disch := decide) only [hother _]
    exact .read ha fun _ => .same fun _ => .pure (.pure fun _ => rfl)
  | cardMargin =>
    simp (disch := decide) only [hother _]
    exact .same fun _ => .read ha fun _ => .pure (.pure fun _ => rfl)
  | _ => exact absurd htag (by decide)

variable (images) in
theorem exists_restyled : ∃ form form', Form.ofTag? images tag config = some form ∧
    Form.ofTag? images tag other = some form' ∧ form.Restyled (field.set a) form' := by
  have htag : tag ∈ ["text", "richText", "image", "icon", "divider", "column", "row", "container",
      "sizedBox", "card"] := by
    cases h <;> decide
  simp only [List.mem_cons, List.not_mem_nil, or_false] at htag
  rcases htag with rfl | rfl | rfl | rfl | rfl | rfl | rfl | rfl | rfl | rfl
  · exact ⟨_, _, rfl, rfl, .still (text_restyled h hother ha rfl)⟩
  · exact ⟨_, _, rfl, rfl, .still (richText_restyled h hother ha rfl)⟩
  · exact ⟨_, _, rfl, rfl, .still (image_restyled h hother ha rfl)⟩
  · exact ⟨_, _, rfl, rfl, .still (icon_restyled h hother ha rfl)⟩
  · exact ⟨_, _, rfl, rfl, .still (divider_restyled h hother ha rfl)⟩
  · exact ⟨_, _, rfl, rfl, flex_restyled h hother ha .vertical rfl⟩
  · exact ⟨_, _, rfl, rfl, flex_restyled h hother ha .horizontal rfl⟩
  · exact ⟨_, _, rfl, rfl, container_restyled h hother ha rfl⟩
  · exact ⟨_, _, rfl, rfl, sizedBox_restyled h hother ha rfl⟩
  · exact ⟨_, _, rfl, rfl, card_restyled h hother ha rfl⟩

end Restyled

end StyleField.Own

end ServerUi
