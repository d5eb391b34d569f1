import ServerUi.Proofs.Text.Hex
import ServerUi.Widget.Basic

/-! The texts that style values are written as. The name of a choice tells the choice, and the text of
a colour tells its 32 bits. -/

namespace ServerUi

/-- A choice can be found again by its name. -/
class LawfulChoice (α : Type) [Choice α] : Prop where
  find_name : ∀ a : α, (Choice.all : List α).find? (fun b => Choice.name b == Choice.name a) = some a

theorem Choice.name_injective {α : Type} [Choice α] [LawfulChoice α] {a b : α}
    (h : Choice.name a = Choice.name b) : a = b := by
  have ha := LawfulChoice.find_name a
  rw [h, LawfulChoice.find_name b] at ha
  exact (Option.some.inj ha).symm

instance : LawfulChoice TextAlign := ⟨fun a => by cases a <;> rfl⟩

instance : LawfulChoice MainAlignment := ⟨fun a => by cases a <;> rfl⟩

instance : LawfulChoice CrossAlignment := ⟨fun a => by cases a <;> rfl⟩

instance : LawfulChoice BoxFit := ⟨fun a => by cases a <;> rfl⟩

instance : LawfulChoice FontStyle := ⟨fun a => by cases a <;> rfl⟩

instance : LawfulChoice Glyph := ⟨fun a => by cases a <;> rfl⟩

namespace Color

/-- Thirty-two bits. -/
def InRange (c : Color) : Prop := 0 ≤ c.argb ∧ c.argb < 0x100000000

theorem opaqueRgb_inRange {rgb : Nat} (h : rgb < 0x1000000) : (opaqueRgb rgb).InRange := by
  unfold InRange opaqueRgb
  dsimp only
  omega

theorem palette_inRange : ∀ m ∈ palette, m.2.InRange := by
  unfold InRange
  decide

/-- What stands behind the six digits of a colour. -/
def behind (c : Color) : List Char :=
  if c.alpha = 0xff then [] else '@' :: hexDigits 'A' 2 c.alpha

theorem text_toList (c : Color) :
    c.text.toList = '#' :: hexDigits 'A' 6 (c.argb % 0x1000000).toNat ++ c.behind := by
  rw [text, behind]
  split
  · rw [hex, String.toList_ofList, List.append_nil]
  · rw [String.toList_append, hex, String.toList_ofList, String.toList_ofList]

theorem parts_eq (c : Color) :
    (c.red : Int) = c.argb / 0x10000 % 256 ∧ (c.green : Int) = c.argb / 0x100 % 256 ∧
      (c.blue : Int) = c.argb % 256 ∧ (c.alpha : Int) = c.argb / 0x1000000 % 256 := by
  have hblue : twoPower (8 * 0) = 0x1 := by decide
  have hgreen : twoPower (8 * 1) = 0x100 := by decide
  have hred : twoPower (8 * 2) = 0x10000 := by decide
  have halpha : twoPower (8 * 3) = 0x1000000 := by decide
  simp only [red, green, blue, alpha, byte, hblue, hgreen, hred, halpha]
  omega

theorem alpha_of_inRange {c : Color} (h : c.InRange) : (c.alpha : Int) = c.argb / 0x1000000 := by
  obtain ⟨hlow, hhigh⟩ := h
  obtain ⟨-, -, -, halpha⟩ := c.parts_eq
  omega

theorem behind_injective {c d : Color} (hc : c.InRange) (hd : d.InRange)
    (h : c.behind = d.behind) : c.alpha = d.alpha := by
  have hbound {e : Color} (he : e.InRange) : e.alpha < 16 ^ 2 := by
    have halpha := alpha_of_inRange he
    obtain ⟨hlow, hhigh⟩ := he
    omega
  rw [behind, behind] at h
  by_cases hcfull : c.alpha = 0xff
  · by_cases hdfull : d.alpha = 0xff
    · rw [hcfull, hdfull]
    · rw [if_pos hcfull, if_neg hdfull] at h
      cases h
  · by_cases hdfull : d.alpha = 0xff
    · rw [if_neg hcfull, if_pos hdfull] at h
      cases h
    · rw [if_neg hcfull, if_neg hdfull] at h
      exact hexDigits_injective (by decide) (hbound hc) (hbound hd) (List.cons.inj h).2

theorem text_injective {c d : Color} (hc : c.InRange) (hd : d.InRange) (h : c.text = d.text) :
    c = d := by
  have hlists := congrArg String.toList h
  rw [text_toList, text_toList] at hlists
  obtain ⟨hfront, hbehind⟩ :=
    List.append_inj hlists (by simp only [List.length_cons, length_hexDigits])
  have hdigits : (c.argb % 0x1000000).toNat = (d.argb % 0x1000000).toNat := by
    have hbound (e : Color) : (e.argb % 0x1000000).toNat < 16 ^ 6 := by omega
    exact hexDigits_injective (by decide) (hbound c) (hbound d) (List.cons.inj hfront).2
  have halpha := behind_injective hc hd hbehind
  have hcalpha := alpha_of_inRange hc
  have hdalpha := alpha_of_inRange hd
  have hargb : c.argb = d.argb := by omega
  cases c
  cases d
  exact congrArg Color.mk hargb

end Color

end ServerUi
