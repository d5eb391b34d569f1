import ServerUi.Proofs.Style.Names
import ServerUi.Style.Resolve

/-! Which texts are colours. A colour is written as six hexadecimal digits behind `#`, two for each of
its parts, or as a name of the palette. Behind the digits one line break is let through. -/

namespace ServerUi

namespace Color

/-- The opaque colour of six hexadecimal digits, two for each part. -/
structure OfDigits (c : Color) (r₁ r₂ g₁ g₂ b₁ b₂ : Char) : Prop where
  red : hexNumber? [r₁, r₂] = some c.red
  green : hexNumber? [g₁, g₂] = some c.green
  blue : hexNumber? [b₁, b₂] = some c.blue
  full : c.alpha = 0xff
  inRange : c.InRange

theorem parts_opaqueRgb {r g b : Nat} (hr : r < 256) (hg : g < 256) (hb : b < 256) :
    (opaqueRgb (65536 * r + 256 * g + b)).red = r ∧ (opaqueRgb (65536 * r + 256 * g + b)).green = g ∧
      (opaqueRgb (65536 * r + 256 * g + b)).blue = b ∧
      (opaqueRgb (65536 * r + 256 * g + b)).alpha = 0xff := by
  obtain ⟨hred, hgreen, hblue, halpha⟩ := (opaqueRgb (65536 * r + 256 * g + b)).parts_eq
  simp only [opaqueRgb] at *
  omega

theorem eq_opaqueRgb {c : Color} (hrange : c.InRange) (hfull : c.alpha = 0xff) :
    c = opaqueRgb (65536 * c.red + 256 * c.green + c.blue) := by
  obtain ⟨hlow, hhigh⟩ := hrange
  obtain ⟨hred, hgreen, hblue, halpha⟩ := c.parts_eq
  have hargb : c.argb = 0xff000000 + (65536 * c.red + 256 * c.green + c.blue : Nat) := by omega
  exact congrArg mk hargb

/-- Two digits make a number of eight bits. -/
theorem hexPair_lt {a b : Char} {n : Nat} (h : hexNumber? [a, b] = some n) : n < 256 :=
  hexNumber?_lt h

theorem hexNumber?_pairs (r₁ r₂ g₁ g₂ b₁ b₂ : Char) :
    hexNumber? [r₁, r₂, g₁, g₂, b₁, b₂] =
      (hexNumber? [r₁, r₂]).bind fun r => (hexNumber? [g₁, g₂]).bind fun g =>
        (hexNumber? [b₁, b₂]).bind fun b => some (65536 * r + 256 * g + b) := by
  have hlast := hexNumber?_append [g₁, g₂] [b₁, b₂]
  have hwhole := hexNumber?_append [r₁, r₂] [g₁, g₂, b₁, b₂]
  simp only [List.cons_append, List.nil_append] at hlast hwhole
  rw [hwhole, hlast]
  rcases hexNumber? [r₁, r₂] with - | r
  · rfl
  rcases hexNumber? [g₁, g₂] with - | g
  · rfl
  rcases hexNumber? [b₁, b₂] with - | b
  · rfl
  simp only [Option.bind_some, List.length_cons, List.length_nil, Option.some.injEq]
  omega

theorem ofDigits_iff (c : Color) (r₁ r₂ g₁ g₂ b₁ b₂ : Char) :
    (hexNumber? [r₁, r₂, g₁, g₂, b₁, b₂]).map opaqueRgb = some c ↔
      c.OfDigits r₁ r₂ g₁ g₂ b₁ b₂ := by
  rw [hexNumber?_pairs]
  constructor
  · intro h
    obtain ⟨n, hn, hc⟩ := Option.map_eq_some_iff.mp h
    obtain ⟨r, hr, hn⟩ := Option.bind_eq_some_iff.mp hn
    obtain ⟨g, hg, hn⟩ := Option.bind_eq_some_iff.mp hn
    obtain ⟨b, hb, hn⟩ := Option.bind_eq_some_iff.mp hn
    obtain rfl := Option.some.inj hn
    have hrlt := hexPair_lt hr
    have hglt := hexPair_lt hg
    have hblt := hexPair_lt hb
    obtain ⟨hred, hgreen, hblue, hfull⟩ := parts_opaqueRgb hrlt hglt hblt
    rw [hc] at hred hgreen hblue hfull
    have hrange : c.InRange := hc ▸ opaqueRgb_inRange (by omega)
    exact ⟨hred ▸ hr, hgreen ▸ hg, hblue ▸ hb, hfull, hrange⟩
  · rintro ⟨hr, hg, hb, hfull, hrange⟩
    rw [hr, hg, hb]
    exact congrArg some (eq_opaqueRgb hrange hfull).symm

/-- The palette has each of its names once, and none that starts as digits do. -/
theorem palette_names :
    ∀ m ∈ palette, palette.lookup m.1 = some m.2 ∧ m.1.toList.head? ≠ some '#' := by
  decide

theorem lookup_palette_iff {name : String} {c : Color} :
    palette.lookup name = some c ↔ (name, c) ∈ palette := by
  constructor
  · intro h
    obtain ⟨front, back, hsplit, -⟩ := List.lookup_eq_some_iff.mp h
    rw [hsplit]
    exact List.mem_append_right front List.mem_cons_self
  · intro h
    exact (palette_names _ h).1

end Color

/-- How a colour can be written, if one of the given endings may stand behind its digits. -/
inductive Color.Written (endings : List String) : Json → Color → Prop
  | digits {s ending : String} {r₁ r₂ g₁ g₂ b₁ b₂ : Char} {c : Color} :
      s.toList = '#' :: r₁ :: r₂ :: g₁ :: g₂ :: b₁ :: b₂ :: ending.toList → ending ∈ endings →
      c.OfDigits r₁ r₂ g₁ g₂ b₁ b₂ → Written endings (.str s) c
  | name {s : String} {c : Color} : (lowered s, c) ∈ Color.palette → Written endings (.str s) c

namespace Style

theorem hexColor?_eq_some_iff {cs : List Char} {c : Color} :
    hexColor? cs = some c ↔ ∃ r₁ r₂ g₁ g₂ b₁ b₂ ending,
      cs = '#' :: r₁ :: r₂ :: g₁ :: g₂ :: b₁ :: b₂ :: ending ∧ (ending = [] ∨ ending = ['\n']) ∧
        c.OfDigits r₁ r₂ g₁ g₂ b₁ b₂ := by
  constructor
  · intro h
    unfold hexColor? at h
    split at h
    · next r₁ r₂ g₁ g₂ b₁ b₂ ending =>
      split at h
      · next hending =>
        have hdigits := (Color.ofDigits_iff c r₁ r₂ g₁ g₂ b₁ b₂).mp h
        exact ⟨r₁, r₂, g₁, g₂, b₁, b₂, ending, rfl, hending, hdigits⟩
      · cases h
    · cases h
  · rintro ⟨r₁, r₂, g₁, g₂, b₁, b₂, ending, rfl, hending, hdigits⟩
    rw [hexColor?, if_pos hending]
    exact (Color.ofDigits_iff c r₁ r₂ g₁ g₂ b₁ b₂).mpr hdigits

theorem head?_lowered {s : String} (h : s.toList.head? = some '#') :
    (lowered s).toList.head? = some '#' := by
  rw [lowered, String.toList_ofList, List.head?_map, h]
  rfl

/-- A text that starts as digits do is no name. -/
theorem written_digits_iff {s : String} (hs : s.toList.head? = some '#') {c : Color} :
    Color.Written ["", "\n"] (.str s) c ↔ hexColor? s.toList = some c := by
  rw [hexColor?_eq_some_iff]
  constructor
  · intro h
    cases h with
    | digits hdigits hending hc =>
      refine ⟨_, _, _, _, _, _, _, hdigits, ?_, hc⟩
      rcases List.mem_cons.mp hending with rfl | hending
      · exact .inl rfl
      · obtain rfl := List.mem_singleton.mp hending
        exact .inr rfl
    | name hname => exact absurd (head?_lowered hs) (Color.palette_names _ hname).2
  · rintro ⟨r₁, r₂, g₁, g₂, b₁, b₂, ending, hdigits, hending, hc⟩
    have hmem : String.ofList ending ∈ ["", "\n"] := by
      rcases hending with rfl | rfl
      · exact List.mem_cons_self
      · exact List.mem_cons_of_mem "" List.mem_cons_self
    rw [← @String.toList_ofList ending] at hdigits
    exact .digits hdigits hmem hc

theorem written_name_iff {s : String} (hs : s.toList.head? ≠ some '#') {endings : List String}
    {c : Color} :
    Color.Written endings (.str s) c ↔ Color.palette.lookup (lowered s) = some c := by
  rw [Color.lookup_palette_iff]
  constructor
  · intro h
    cases h with
    | digits hdigits _ _ =>
      rw [hdigits] at hs
      exact absurd rfl hs
    | name hname => exact hname
  · exact .name

theorem color_str (s : String) :
    (color (.str s)).outcome =
      .ok (if s.toList.head? = some '#' then hexColor? s.toList
        else Color.palette.lookup (lowered s)) := by
  rw [color]
  split
  · cases hexColor? s.toList <;> rfl
  · cases Color.palette.lookup (lowered s) <;> rfl

theorem color_other {v : Json} (hv : ∀ s, v ≠ .str s) : (color v).outcome = .ok none := by
  cases v with
  | str s => exact absurd rfl (hv s)
  | _ => rfl

end Style

/-- A colour is read from exactly the texts that it is written as, six digits behind `#` or a name of
the palette, where a line break may stand behind the digits. -/
theorem color_read_iff (v : Json) :
    ∃ found, (Style.color v).outcome = .ok found ∧
      ∀ c, found = some c ↔ Color.Written ["", "\n"] v c := by
  by_cases hstr : ∃ s, v = .str s
  · obtain ⟨s, rfl⟩ := hstr
    refine ⟨_, Style.color_str s, fun c => ?_⟩
    by_cases hs : s.toList.head? = some '#'
    · rw [if_pos hs, Style.written_digits_iff hs]
    · rw [if_neg hs, Style.written_name_iff hs]
  · refine ⟨none, Style.color_other fun s hs => hstr ⟨s, hs⟩, fun c => ?_⟩
    constructor
    · intro h
      cases h
    · intro h
      cases h with
      | digits => exact absurd ⟨_, rfl⟩ hstr
      | name => exact absurd ⟨_, rfl⟩ hstr

/-- A line break behind the digits is let through. -/
theorem color_read_line_break :
    ¬ ∀ v, ∃ found, (Style.color v).outcome = .ok found ∧
      ∀ c, found = some c ↔ Color.Written [""] v c := by
  intro h
  obtain ⟨found, hfound, hiff⟩ := h (.str "#ff0000\n")
  have hred : (Style.color (.str "#ff0000\n")).outcome = .ok (some ⟨0xffff0000⟩) := by rfl
  obtain rfl := Except.ok.inj (hfound.symm.trans hred)
  cases (hiff _).mp rfl with
  | digits hdigits hending _ =>
    obtain rfl := List.mem_singleton.mp hending
    cases hdigits
  | name hname => exact absurd (Style.head?_lowered rfl) (Color.palette_names _ hname).2

end ServerUi
