import ServerUi.Proofs.Builder.Laws
import ServerUi.Proofs.Except
import ServerUi.Proofs.Json.Members
import ServerUi.Style.Resolve

/-! The fields that style values are read from, each with the one property that it sets: of a
widget, of the style of a text, or of insets. Within an object of style values a field sets its own
part of what the object comes to. -/

namespace ServerUi

open Style

/-- A field: how it is read, what it comes to where it is left out, and what it sets. -/
structure StyleField (ω α : Type) where
  read : Json → Report α
  unset : α
  set : α → ω → ω

/-- The fields of an object that is read into style values: the attributes of a text, and the sides
of insets. -/
inductive StyleField.Inner : {ω α : Type} →
    (Json → Report (Option ω)) → String → StyleField ω α → Prop where
  | fontSize : Inner textStyle "fontSize" ⟨dimension, none, fun a s => { s with size := a }⟩
  | color : Inner textStyle "color" ⟨color, none, fun a s => { s with color := a }⟩
  | fontWeight :
      Inner textStyle "fontWeight" ⟨fontWeight, none, fun a s => { s with weight := a }⟩
  | fontStyle :
      Inner textStyle "fontStyle" ⟨choice FontStyle, none, fun a s => { s with slant := a }⟩
  | left : Inner edgeInsets "left"
      ⟨fun v => side [("left", v)] "left", .zero, fun a e => { e with left := a }⟩
  | top : Inner edgeInsets "top"
      ⟨fun v => side [("top", v)] "top", .zero, fun a e => { e with top := a }⟩
  | right : Inner edgeInsets "right"
      ⟨fun v => side [("right", v)] "right", .zero, fun a e => { e with right := a }⟩
  | bottom : Inner edgeInsets "bottom"
      ⟨fun v => side [("bottom", v)] "bottom", .zero, fun a e => { e with bottom := a }⟩

theorem textStyle_eq_ok_iff {style : Config} {s : TextStyle} :
    (textStyle (.obj style)).outcome = .ok (some s) ↔
      (dimension (style.get "fontSize")).outcome = .ok s.size ∧
      (color (style.get "color")).outcome = .ok s.color ∧
      (fontWeight (style.get "fontWeight")).outcome = .ok s.weight ∧
      (choice FontStyle (style.get "fontStyle")).outcome = .ok s.slant := by
  rw [textStyle, map_eq_pure_bind]
  simp only [attributes, Report.bind_outcome, bind_eq_ok_iff]
  constructor
  · rintro ⟨_, ⟨size, hsize, color, hcolor, weight, hweight, slant, hslant, ⟨⟩⟩, ⟨⟩⟩
    exact ⟨hsize, hcolor, hweight, hslant⟩
  · rintro ⟨hsize, hcolor, hweight, hslant⟩
    exact ⟨s, ⟨_, hsize, _, hcolor, _, hweight, _, hslant, rfl⟩, rfl⟩

theorem edgeInsets_eq_ok_iff {insets : Config} {e : EdgeInsets} :
    (edgeInsets (.obj insets)).outcome = .ok (some e) ↔
      (side insets "left").outcome = .ok e.left ∧ (side insets "top").outcome = .ok e.top ∧
      (side insets "right").outcome = .ok e.right ∧
      (side insets "bottom").outcome = .ok e.bottom := by
  simp only [edgeInsets, Report.bind_outcome, bind_eq_ok_iff]
  constructor
  · rintro ⟨left, hleft, top, htop, right, hright, bottom, hbottom, ⟨⟩⟩
    exact ⟨hleft, htop, hright, hbottom⟩
  · rintro ⟨hleft, htop, hright, hbottom⟩
    exact ⟨_, hleft, _, htop, _, hright, _, hbottom, rfl⟩

theorem side_eq (insets : Config) (name : String) :
    side insets name = side [(name, insets.get name)] name := by
  have hget : Config.get [(name, insets.get name)] name = insets.get name := by
    rw [Config.get, lookup_cons_ite, if_pos rfl, Option.getD_some]
  rw [side, side, hget]

namespace StyleField.Inner

variable {ω α : Type} {read : Json → Report (Option ω)} {key : String} {field : StyleField ω α}

theorem read_null (h : Inner read key field) : (field.read .null).outcome = .ok field.unset := by
  cases h <;> rfl

theorem read_object (h : Inner read key field) {members other : Config}
    (hother : members.Apart key other) {s : ω} (hs : (read (.obj members)).outcome = .ok (some s))
    {a : α} (ha : (field.read (other.get key)).outcome = .ok a) :
    (read (.obj other)).outcome = .ok (some (field.set a s)) := by
  have hside (name : String) (hname : name ≠ key) : side other name = side members name := by
    rw [side_eq, hother name hname, ← side_eq]
  cases h with
  | fontSize | color | fontWeight | fontStyle =>
    dsimp only at ha ⊢
    rw [textStyle_eq_ok_iff] at hs ⊢
    simp (disch := decide) only [hother _, hs, ha, and_self]
  | left | top | right | bottom =>
    dsimp only at ha ⊢
    rw [edgeInsets_eq_ok_iff] at hs ⊢
    rw [← side_eq] at ha
    simp (disch := decide) only [hside _, hs, ha, and_self]

end StyleField.Inner

end ServerUi
