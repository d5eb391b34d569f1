import ServerUi.Json.Printer
import ServerUi.Proofs.Json.Grammar
import ServerUi.Proofs.Text.Hex

/-! The texts of strings. They are strings of the grammar, and reading them puts every character
together again, also one that is written as two units. -/

namespace ServerUi.Json

section Units

/-- The four digits of a unit are read as the unit, if something stands behind them. -/
theorem readPieces_unit {n : Nat} (hn : n < 0x10000) (start : Nat) {y : List Char} (hy : y ≠ []) :
    readPieces start (unitEscape n ++ y) =
      (readPieces start y).map fun (found, after) => (.unit n :: found, after) := by
  have hread : hexNumber? (hexDigits 'a' 4 n) = some n := hexNumber?_hexDigits (by decide) hn
  have hlength : (hexDigits 'a' 4 n).length = 4 := length_hexDigits 'a' 4 n
  match hds : hexDigits 'a' 4 n, hlength, y, hy with
  | [a, b, c, d], _, x :: rest, _ =>
    rw [hds] at hread
    rw [unitEscape, hds]
    simp only [List.cons_append, List.nil_append, readPieces, hread]
    rfl

/-- A unit that is not the first half of a pair stands for itself. -/
theorem joined_unit {n : Nat} (hn : ¬(0xd800 ≤ n ∧ n < 0xdc00)) (more : List Piece) :
    joined (.unit n :: more) = single n :: joined more := by
  match more with
  | [] => rfl
  | .char c :: rest => rfl
  | .unit low :: rest =>
    have hnone : paired? n low = none := if_neg fun h => hn ⟨h.1, h.2.1⟩
    rw [joined, hnone]

theorem single_toNat (c : Char) : single c.toNat = c := by
  have hvalid : c.toNat < 0xd800 ∨ 0xdfff < c.toNat ∧ c.toNat < 0x110000 := c.valid
  have hnone : ¬(0xd800 ≤ c.toNat ∧ c.toNat < 0xe000) := by omega
  rw [single, if_neg hnone, Char.ofNat_toNat]

theorem joined_pair {n : Nat} (hn : n < 0x100000) (more : List Piece) :
    joined (.unit (0xd800 + n / 0x400) :: .unit (0xdc00 + n % 0x400) :: more) =
      Char.ofNat (0x10000 + n) :: joined more := by
  have hpair : paired? (0xd800 + n / 0x400) (0xdc00 + n % 0x400) =
      some (Char.ofNat (0x10000 + n)) := by
    have hvalue : 0x10000 + (0xd800 + n / 0x400 - 0xd800) * 0x400 + (0xdc00 + n % 0x400 - 0xdc00) =
        0x10000 + n := by omega
    rw [paired?, if_pos (by omega), hvalue]
  rw [joined, hpair]

end Units

/-- Inside a string the text is read as the characters, in front of whatever follows. -/
def Spells (w cs : List Char) : Prop :=
  ∃ found, (∀ start y, y ≠ [] → readPieces start (w ++ y) =
      (readPieces start y).map fun (more, after) => (found ++ more, after)) ∧
    ∀ more, joined (found ++ more) = cs ++ joined more

section Spells

theorem spells_nil : Spells [] [] := by
  refine ⟨[], fun start y _ => ?_, fun more => rfl⟩
  rw [List.nil_append]
  cases readPieces start y <;> rfl

theorem Spells.append {w w' cs cs' : List Char} (h : Spells w cs) (h' : Spells w' cs') :
    Spells (w ++ w') (cs ++ cs') := by
  obtain ⟨found, hread, hjoined⟩ := h
  obtain ⟨found', hread', hjoined'⟩ := h'
  refine ⟨found ++ found', fun start y hy => ?_, fun more => ?_⟩
  · have hbehind : w' ++ y ≠ [] := List.append_ne_nil_of_right_ne_nil w' hy
    rw [List.append_assoc, hread start _ hbehind, hread' start y hy]
    cases readPieces start y with
    | error e => rfl
    | ok more => simp only [Except.map, List.append_assoc]
  · rw [List.append_assoc, hjoined, hjoined', List.append_assoc]

/-- One step of the reader that yields one character. -/
theorem spells_char {w : List Char} {c : Char}
    (h : ∀ start cs, readPieces start (w ++ cs) =
      (readPieces start cs).map fun (found, after) => (.char c :: found, after)) : Spells w [c] :=
  ⟨[.char c], fun start y _ => h start y, fun _ => rfl⟩

theorem spells_unit {c : Char} (hc : c.toNat < 0x10000) : Spells (unitEscape c.toNat) [c] := by
  refine ⟨[.unit c.toNat], fun start y hy => readPieces_unit hc start hy, fun more => ?_⟩
  have hvalid : c.toNat < 0xd800 ∨ 0xdfff < c.toNat ∧ c.toNat < 0x110000 := c.valid
  rw [List.singleton_append, joined_unit (by omega), single_toNat]
  rfl

theorem spells_pair {c : Char} (hc : 0x10000 ≤ c.toNat) :
    Spells (unitEscape (0xd800 + (c.toNat - 0x10000) / 0x400) ++
      unitEscape (0xdc00 + (c.toNat - 0x10000) % 0x400)) [c] := by
  have hvalid : c.toNat < 0xd800 ∨ 0xdfff < c.toNat ∧ c.toNat < 0x110000 := c.valid
  refine ⟨[.unit (0xd800 + (c.toNat - 0x10000) / 0x400),
    .unit (0xdc00 + (c.toNat - 0x10000) % 0x400)], fun start y hy => ?_, fun more => ?_⟩
  · have hsecond : unitEscape (0xdc00 + (c.toNat - 0x10000) % 0x400) ++ y ≠ [] :=
      List.append_ne_nil_of_right_ne_nil _ hy
    rw [List.append_assoc, readPieces_unit (by omega) start hsecond,
      readPieces_unit (by omega) start hy]
    cases readPieces start y <;> rfl
  · have hchar : Char.ofNat (0x10000 + (c.toNat - 0x10000)) = c := by
      rw [Nat.add_sub_cancel' hc, Char.ofNat_toNat]
    rw [List.cons_append, List.singleton_append, joined_pair (by omega), hchar]
    rfl

end Spells

/-- How a character is written: behind a backslash, as it is, or by its units. -/
inductive Escaped (c : Char) : List Char → Prop where
  | short {e : Char} (he : unescaped? e = some c)
      (hmem : e ∈ ['"', '\\', '/', 'b', 'f', 'n', 'r', 't']) : Escaped c ['\\', e]
  | plain (hc : 0x20 ≤ c.toNat) (hquote : c ≠ '"') (hback : c ≠ '\\') : Escaped c [c]
  | unit (hc : c.toNat < 0x10000) : Escaped c (unitEscape c.toNat)
  | pair (hc : 0x10000 ≤ c.toNat) :
      Escaped c (unitEscape (0xd800 + (c.toNat - 0x10000) / 0x400) ++
        unitEscape (0xdc00 + (c.toNat - 0x10000) % 0x400))

section Escaped

theorem escaped (c : Char) : Escaped c (escapedChar c) := by
  have hshort {e : Char} (he : unescaped? e = some c)
      (hmem : e ∈ ['"', '\\', '/', 'b', 'f', 'n', 'r', 't']) : Escaped c ['\\', e] := .short he hmem
  unfold escapedChar
  -- The seven characters that have a letter of their own.
  iterate 7
    split
    · next hc => exact hshort (by rw [hc]; rfl) (by decide)
  next hquote hback _ _ _ _ _ =>
  split
  · next hc => exact .plain (UInt32.le_iff_toNat_le.mp (Char.le_def.mp hc.1)) hquote hback
  split
  · next hc => exact .unit hc
  · next hc => exact .pair (Nat.le_of_not_lt hc)

theorem Escaped.spells {c : Char} {w : List Char} (h : Escaped c w) : Spells w [c] := by
  cases h with
  | short he hmem => exact spells_char (readPieces_escape he)
  | plain hc hquote hback => exact spells_char (readPieces_plain hquote hback (Nat.not_lt.mpr hc))
  | unit hc => exact spells_unit hc
  | pair hc => exact spells_pair hc

end Escaped

section Written

theorem spells_flatMap (cs : List Char) : Spells (cs.flatMap escapedChar) cs := by
  induction cs with
  | nil => exact spells_nil
  | cons c rest ih =>
    rw [List.flatMap_cons]
    exact (escaped c).spells.append ih

/-- A string that is written is read back, in front of any text. -/
theorem readString_stringText (s : String) (start : Nat) (y : List Char) :
    readString start (s.toList.flatMap escapedChar ++ '"' :: y) = .ok (s, y) := by
  obtain ⟨found, hread, hjoined⟩ := spells_flatMap s.toList
  have hend : readPieces start ('"' :: y) = .ok ([], y) := by rw [readPieces]
  have hall := hjoined []
  rw [List.append_nil, joined, List.append_nil] at hall
  rw [readString, hread start _ (List.cons_ne_nil _ _), hend]
  change Except.ok (String.ofList (joined (found ++ [])), y) = _
  rw [List.append_nil, hall, String.ofList_toList]

end Written

end ServerUi.Json
