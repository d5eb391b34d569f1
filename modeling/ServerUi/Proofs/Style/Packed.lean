import ServerUi.Proofs.Style.Color

/-! The three ways to give a colour: one whole number, its four parts, and a text. Any numbers will
do, negative ones too; what counts of them are the lowest bits, and those go from each way to the
others unchanged. -/

namespace ServerUi

namespace Color

theorem argb_ofRgb (r g b a : Int) :
    (ofRgb r g b a).argb = a % 256 * 0x1000000 + r % 256 * 0x10000 + g % 256 * 0x100 + b % 256 := by
  have hbyte (n : Int) : (byte n 0 : Int) = n % 256 := by
    have hone : twoPower (8 * 0) = 0x1 := by decide
    rw [byte, hone]
    omega
  simp only [ofRgb, hbyte]

theorem ofRgb_inRange (r g b a : Int) : (ofRgb r g b a).InRange := by
  unfold InRange
  rw [argb_ofRgb]
  omega

theorem parts_ofRgb (r g b a : Int) :
    ((ofRgb r g b a).red : Int) = r % 256 ∧ ((ofRgb r g b a).green : Int) = g % 256 ∧
      ((ofRgb r g b a).blue : Int) = b % 256 ∧ ((ofRgb r g b a).alpha : Int) = a % 256 := by
  obtain ⟨hred, hgreen, hblue, halpha⟩ := (ofRgb r g b a).parts_eq
  rw [argb_ofRgb] at hred hgreen hblue halpha
  omega

theorem ofRgb_parts (c : Color) :
    ofRgb c.red c.green c.blue c.alpha = ⟨c.argb % 0x100000000⟩ := by
  have hargb := argb_ofRgb c.red c.green c.blue c.alpha
  obtain ⟨hred, hgreen, hblue, halpha⟩ := c.parts_eq
  rw [hred, hgreen, hblue, halpha] at hargb
  have hpacked : (ofRgb c.red c.green c.blue c.alpha).argb = c.argb % 0x100000000 := by
    rw [hred, hgreen, hblue, halpha, hargb]
    omega
  exact congrArg Color.mk hpacked

theorem hex_toList (n : Int) :
    (⟨n⟩ : Color).hex.toList =
      '#' :: ((Nat.toDigits 16 (n % 0x1000000).toNat).leftpad 6 '0').map Char.toUpper := by
  rw [hex, String.toList_ofList, hexDigits_upper 5 (by omega)]

/-- The digits of a colour are read as the colour without its alpha. -/
theorem color_hex (n : Int) :
    Style.color (.str (⟨n⟩ : Color).hex) = pure (some ⟨0xff000000 + n % 0x1000000⟩) := by
  have hlow : (n % 0x1000000).toNat < 16 ^ 6 := by omega
  obtain ⟨a, b, c, d, e, f, hdigits⟩ : ∃ a b c d e f,
      hexDigits 'A' 6 (n % 0x1000000).toNat = [a, b, c, d, e, f] := ⟨_, _, _, _, _, _, rfl⟩
  have hnumber := @hexNumber?_hexDigits 'A' (by decide) 6 _ hlow
  rw [hdigits] at hnumber
  have hlist : (⟨n⟩ : Color).hex.toList = ['#', a, b, c, d, e, f] := by
    rw [hex, String.toList_ofList, hdigits]
  have hread : Style.hexColor? (⟨n⟩ : Color).hex.toList =
      some ⟨0xff000000 + n % 0x1000000⟩ := by
    have hnat : (((n % 0x1000000).toNat : Nat) : Int) = n % 0x1000000 := by omega
    rw [hlist, Style.hexColor?, if_pos (.inl rfl), hnumber, Option.map_some, opaqueRgb, hnat]
  rw [Style.color, if_pos (by rw [hlist]; rfl), hread]

end Color

/-- A colour packed from four numbers has thirty-two bits, and its parts are the numbers modulo 256.
Any whole number is packed again from its parts, but for the bits above the lowest thirty-two. Its
digits are those of its lowest twenty-four bits, six of them, and they are read as the opaque colour
of these bits. The text of a colour of thirty-two bits is that of no other one. -/
theorem Color.packed_parts_and_text :
    (∀ r g b a : Int, (ofRgb r g b a).InRange ∧
      ((ofRgb r g b a).red : Int) = r % 256 ∧ ((ofRgb r g b a).green : Int) = g % 256 ∧
      ((ofRgb r g b a).blue : Int) = b % 256 ∧ ((ofRgb r g b a).alpha : Int) = a % 256) ∧
    (∀ n : Int, let c : Color := ⟨n⟩
      ofRgb c.red c.green c.blue c.alpha = ⟨n % 0x100000000⟩ ∧
      c.hex.toList =
        '#' :: ((Nat.toDigits 16 (n % 0x1000000).toNat).leftpad 6 '0').map Char.toUpper ∧
      Style.color (.str c.hex) = pure (some ⟨0xff000000 + n % 0x1000000⟩)) ∧
    ∀ c d : Color, c.InRange → d.InRange → c.text = d.text → c = d := by
  refine ⟨fun r g b a => ⟨ofRgb_inRange r g b a, parts_ofRgb r g b a⟩, ?_, ?_⟩
  · exact fun n => ⟨ofRgb_parts ⟨n⟩, hex_toList n, color_hex n⟩
  · exact fun c d => text_injective

/-- Red packed from numbers out of range has the text of the red that errors are shown in. -/
theorem Color.packed_parts_and_text_red :
    let c := ofRgb (-1) 256 0 0x1ff
    c.red = 255 ∧ c.green = 0 ∧ c.InRange ∧ ofErrors.InRange ∧ c.text = ofErrors.text ∧
    c = ofErrors ∧ Style.color (.str (⟨-1⟩ : Color).hex) = pure (some ⟨0xffffffff⟩) := by
  intro c
  obtain ⟨hparts, hnumbers, htexts⟩ := Color.packed_parts_and_text
  obtain ⟨hrange, hred, hgreen, -, -⟩ := hparts (-1) 256 0 0x1ff
  obtain ⟨-, -, hread⟩ := hnumbers (-1)
  have hshown : ofErrors.InRange := by unfold InRange; decide
  have htext : c.text = ofErrors.text := by decide
  have hsame : c = ofErrors := htexts c ofErrors hrange hshown htext
  exact ⟨Int.ofNat.inj hred, Int.ofNat.inj hgreen, hrange, hshown, htext, hsame, hread⟩

end ServerUi
