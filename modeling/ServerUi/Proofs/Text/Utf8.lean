import Mathlib.Tactic.Common
import ServerUi.Text.Utf8

/-! Bytes are read as a text exactly if they are the UTF-8 form of that text. -/

namespace ServerUi.Utf8

def encode (cs : List Char) : List UInt8 := cs.flatMap String.utf8EncodeChar

/-- Nothing is expected of the bytes to come. -/
def start : Pending := ⟨0, 0, 0, 0⟩

section First

variable {n : Nat}

theorem first?_two (h : 0xc2 ≤ n) (h' : n < 0xe0) : first? n = some ⟨1, 0x80, 0xbf, n - 0xc0⟩ := by
  rw [first?, if_neg (by omega), if_neg (by omega), if_pos h']

theorem first?_three (h : 0xe0 ≤ n) (h' : n < 0xf0) :
    first? n = some ⟨2, if n = 0xe0 then 0xa0 else 0x80, if n = 0xed then 0x9f else 0xbf,
      n - 0xe0⟩ := by
  rw [first?, if_neg (by omega), if_neg (by omega), if_neg (by omega), if_pos h']

theorem first?_four (h : 0xf0 ≤ n) (h' : n < 0xf5) :
    first? n = some ⟨3, if n = 0xf0 then 0x90 else 0x80, if n = 0xf4 then 0x8f else 0xbf,
      n - 0xf0⟩ := by
  rw [first?, if_neg (by omega), if_neg (by omega), if_neg (by omega), if_neg (by omega), if_pos h']

theorem first?_none (h : 0x80 ≤ n) (h' : n < 0xc2 ∨ 0xf5 ≤ n) : first? n = none := by
  rw [first?, if_neg (by omega)]
  rcases h' with h' | h'
  · rw [if_pos h']
  · rw [if_neg (by omega), if_neg (by omega), if_neg (by omega), if_neg (by omega)]

end First

section Steps

variable {b : UInt8} {n owed low high value : Nat} (hb : b.toNat = n)

include hb

theorem decodeFrom_one (hn : n < 0x80) (rest : List UInt8) :
    decodeFrom start (b :: rest) = (Char.ofNat n :: ·) <$> decodeFrom start rest := by
  have hfirst : first? n = some ⟨0, 0, 0, n⟩ := if_pos hn
  simp only [start, decodeFrom, hb, hfirst]

theorem decodeFrom_first {pending : Pending} (hfirst : first? n = some pending)
    (howed : pending.owed ≠ 0) (rest : List UInt8) :
    decodeFrom start (b :: rest) = decodeFrom pending rest := by
  obtain ⟨_ | owed, low, high, value⟩ := pending
  · exact absurd rfl howed
  · simp only [start, decodeFrom, hb, hfirst]

theorem decodeFrom_next (hn : low ≤ n ∧ n ≤ high) (rest : List UInt8) :
    decodeFrom ⟨owed + 2, low, high, value⟩ (b :: rest) =
      decodeFrom ⟨owed + 1, 0x80, 0xbf, 64 * value + (n - 0x80)⟩ rest := by
  simp only [decodeFrom, hb, hn, and_self, if_true, Nat.add_eq_zero_iff, Nat.one_ne_zero, and_false,
    if_false]

theorem decodeFrom_last (hn : low ≤ n ∧ n ≤ high) (rest : List UInt8) :
    decodeFrom ⟨1, low, high, value⟩ (b :: rest) =
      (Char.ofNat (64 * value + (n - 0x80)) :: ·) <$> decodeFrom start rest := by
  simp only [decodeFrom, hb, hn, and_self, if_true, start]

end Steps

/-- Inside a character another byte comes, and it is within the bounds. -/
theorem exists_next {owed low high value : Nat} {bytes : List UInt8} {cs : List Char}
    (h : decodeFrom ⟨owed + 1, low, high, value⟩ bytes = .ok cs) :
    ∃ b rest, bytes = b :: rest ∧ low ≤ b.toNat ∧ b.toNat ≤ high := by
  cases bytes with
  | nil => cases h
  | cons b rest =>
    rw [decodeFrom] at h
    split at h
    · next hb => exact ⟨b, rest, rfl, hb⟩
    · cases h

theorem exists_of_map_cons {c : Char} {r : Except Utf8Flaw (List Char)} {cs : List Char}
    (h : (c :: ·) <$> r = .ok cs) : ∃ more, r = .ok more ∧ cs = c :: more := by
  cases r with
  | error flaw => cases h
  | ok more =>
    cases h
    exact ⟨more, rfl, rfl⟩

/-- The bound is a numeral here, which `omega` can compare with. -/
theorem toNat_ofNat_of_lt {n : Nat} (h : n < 0x100) : (UInt8.ofNat n).toNat = n :=
  UInt8.toNat_ofNat_of_lt' h

/-- The form of a character by its number. -/
def encoded (v : Nat) : List UInt8 :=
  if v ≤ 0x7f then [.ofNat v]
  else if v ≤ 0x7ff then [.ofNat (v / 64 % 32 + 0xc0), .ofNat (v % 64 + 0x80)]
  else if v ≤ 0xffff then
    [.ofNat (v / 4096 % 16 + 0xe0), .ofNat (v / 64 % 64 + 0x80), .ofNat (v % 64 + 0x80)]
  else
    [.ofNat (v / 262144 % 8 + 0xf0), .ofNat (v / 4096 % 64 + 0x80), .ofNat (v / 64 % 64 + 0x80),
      .ofNat (v % 64 + 0x80)]

theorem utf8EncodeChar_eq (c : Char) : String.utf8EncodeChar c = encoded c.toNat := rfl

section Encoded

variable {v : Nat} (rest : List UInt8)

theorem decodeFrom_encoded_one (h : v ≤ 0x7f) :
    decodeFrom start (encoded v ++ rest) = (Char.ofNat v :: ·) <$> decodeFrom start rest := by
  rw [encoded, if_pos h]
  exact decodeFrom_one (toNat_ofNat_of_lt (by omega)) (by omega) rest

theorem decodeFrom_encoded_two (h : 0x7f < v) (h' : v ≤ 0x7ff) :
    decodeFrom start (encoded v ++ rest) = (Char.ofNat v :: ·) <$> decodeFrom start rest := by
  have hfirst := first?_two (n := v / 64 % 32 + 0xc0) (by omega) (by omega)
  have hvalue : 64 * (v / 64 % 32 + 0xc0 - 0xc0) + (v % 64 + 0x80 - 0x80) = v := by omega
  rw [encoded, if_neg (by omega), if_pos h', List.cons_append, List.cons_append, List.nil_append,
    decodeFrom_first (toNat_ofNat_of_lt (by omega)) hfirst Nat.one_ne_zero,
    decodeFrom_last (toNat_ofNat_of_lt (by omega)) (by omega), hvalue]

theorem decodeFrom_encoded_three (h : 0x7ff < v) (h' : v ≤ 0xffff) (hv : v.isValidChar) :
    decodeFrom start (encoded v ++ rest) = (Char.ofNat v :: ·) <$> decodeFrom start rest := by
  have hfirst := first?_three (n := v / 4096 % 16 + 0xe0) (by omega) (by omega)
  have hvalue : 64 * (64 * (v / 4096 % 16 + 0xe0 - 0xe0) + (v / 64 % 64 + 0x80 - 0x80)) +
      (v % 64 + 0x80 - 0x80) = v := by omega
  have hbounds : (if v / 4096 % 16 + 0xe0 = 0xe0 then 0xa0 else 0x80) ≤ v / 64 % 64 + 0x80 ∧
      v / 64 % 64 + 0x80 ≤ if v / 4096 % 16 + 0xe0 = 0xed then 0x9f else 0xbf := by
    constructor <;> split <;> omega
  rw [encoded, if_neg (by omega), if_neg (by omega), if_pos h', List.cons_append,
    List.cons_append, List.cons_append, List.nil_append,
    decodeFrom_first (toNat_ofNat_of_lt (by omega)) hfirst (Nat.succ_ne_zero 1),
    decodeFrom_next (toNat_ofNat_of_lt (by omega)) hbounds,
    decodeFrom_last (toNat_ofNat_of_lt (by omega)) (by omega), hvalue]

theorem decodeFrom_encoded_four (h : 0xffff < v) (hv : v.isValidChar) :
    decodeFrom start (encoded v ++ rest) = (Char.ofNat v :: ·) <$> decodeFrom start rest := by
  have hfirst := first?_four (n := v / 262144 % 8 + 0xf0) (by omega) (by omega)
  have hvalue : 64 * (64 * (64 * (v / 262144 % 8 + 0xf0 - 0xf0) +
      (v / 4096 % 64 + 0x80 - 0x80)) + (v / 64 % 64 + 0x80 - 0x80)) +
      (v % 64 + 0x80 - 0x80) = v := by omega
  have hbounds : (if v / 262144 % 8 + 0xf0 = 0xf0 then 0x90 else 0x80) ≤ v / 4096 % 64 + 0x80 ∧
      v / 4096 % 64 + 0x80 ≤ if v / 262144 % 8 + 0xf0 = 0xf4 then 0x8f else 0xbf := by
    constructor <;> split <;> omega
  rw [encoded, if_neg (by omega), if_neg (by omega), if_neg (by omega), List.cons_append,
    List.cons_append, List.cons_append, List.cons_append, List.nil_append,
    decodeFrom_first (toNat_ofNat_of_lt (by omega)) hfirst (Nat.succ_ne_zero 2),
    decodeFrom_next (toNat_ofNat_of_lt (by omega)) hbounds,
    decodeFrom_next (toNat_ofNat_of_lt (by omega)) (by omega),
    decodeFrom_last (toNat_ofNat_of_lt (by omega)) (by omega), hvalue]

theorem decodeFrom_encoded (hv : v.isValidChar) :
    decodeFrom start (encoded v ++ rest) = (Char.ofNat v :: ·) <$> decodeFrom start rest := by
  by_cases hone : v ≤ 0x7f
  · exact decodeFrom_encoded_one rest hone
  by_cases htwo : v ≤ 0x7ff
  · exact decodeFrom_encoded_two rest (by omega) htwo
  by_cases hthree : v ≤ 0xffff
  · exact decodeFrom_encoded_three rest (by omega) hthree hv
  · exact decodeFrom_encoded_four rest (by omega) hv

end Encoded

theorem decode_encode (cs : List Char) : decode (encode cs) = .ok cs := by
  induction cs with
  | nil => rfl
  | cons c rest ih =>
    rw [encode, List.flatMap_cons, decode, utf8EncodeChar_eq]
    change decodeFrom start (encoded c.toNat ++ encode rest) = _
    rw [decodeFrom_encoded (v := c.toNat) _ c.valid, Char.ofNat_toNat]
    exact congrArg ((c :: ·) <$> ·) ih

section Inverse

variable {b b₁ b₂ b₃ : UInt8}

theorem ofNat_eq {n : Nat} (h : n = b.toNat) : UInt8.ofNat n = b := by
  rw [h, UInt8.ofNat_toNat]

theorem encoded_one (h : b.toNat < 0x80) : encoded b.toNat = [b] := by
  rw [encoded, if_pos (by omega), ofNat_eq rfl]

theorem encoded_two {v : Nat} (h : 0xc2 ≤ b.toNat) (h' : b.toNat < 0xe0)
    (h₁ : 0x80 ≤ b₁.toNat ∧ b₁.toNat ≤ 0xbf)
    (hv : v = 64 * (b.toNat - 0xc0) + (b₁.toNat - 0x80)) : encoded v = [b, b₁] := by
  rw [encoded, if_neg (by omega), if_pos (by omega), ofNat_eq (b := b) (by omega),
    ofNat_eq (b := b₁) (by omega)]

theorem encoded_three {v : Nat} (h : 0xe0 ≤ b.toNat) (h' : b.toNat < 0xf0)
    (hlow : b.toNat = 0xe0 → 0xa0 ≤ b₁.toNat) (h₁ : 0x80 ≤ b₁.toNat ∧ b₁.toNat ≤ 0xbf)
    (h₂ : 0x80 ≤ b₂.toNat ∧ b₂.toNat ≤ 0xbf)
    (hv : v = 64 * (64 * (b.toNat - 0xe0) + (b₁.toNat - 0x80)) + (b₂.toNat - 0x80)) :
    encoded v = [b, b₁, b₂] := by
  rw [encoded, if_neg (by omega), if_neg (by omega), if_pos (by omega),
    ofNat_eq (b := b) (by omega), ofNat_eq (b := b₁) (by omega), ofNat_eq (b := b₂) (by omega)]

theorem encoded_four {v : Nat} (h : 0xf0 ≤ b.toNat) (h' : b.toNat < 0xf5)
    (hlow : b.toNat = 0xf0 → 0x90 ≤ b₁.toNat) (h₁ : 0x80 ≤ b₁.toNat ∧ b₁.toNat ≤ 0xbf)
    (h₂ : 0x80 ≤ b₂.toNat ∧ b₂.toNat ≤ 0xbf) (h₃ : 0x80 ≤ b₃.toNat ∧ b₃.toNat ≤ 0xbf)
    (hv : v = 64 * (64 * (64 * (b.toNat - 0xf0) + (b₁.toNat - 0x80)) + (b₂.toNat - 0x80)) +
      (b₃.toNat - 0x80)) :
    encoded v = [b, b₁, b₂, b₃] := by
  rw [encoded, if_neg (by omega), if_neg (by omega), if_neg (by omega),
    ofNat_eq (b := b) (by omega), ofNat_eq (b := b₁) (by omega), ofNat_eq (b := b₂) (by omega),
    ofNat_eq (b := b₃) (by omega)]

end Inverse

section Begins

variable {b : UInt8} {rest : List UInt8} {cs : List Char}

/-- The bytes start with the form of the first character, and what is behind it is read as the rest. -/
def Begins (bytes : List UInt8) (cs : List Char) : Prop :=
  ∃ c more behind, cs = c :: more ∧ bytes = String.utf8EncodeChar c ++ behind ∧
    decodeFrom start behind = .ok more

theorem begins_of_encoded {v : Nat} (hv : v.isValidChar) {form behind : List UInt8}
    (hform : encoded v = form)
    (h : (Char.ofNat v :: ·) <$> decodeFrom start behind = .ok cs) : Begins (form ++ behind) cs := by
  obtain ⟨more, hmore, rfl⟩ := exists_of_map_cons h
  have hnat : (Char.ofNat v).toNat = v := by
    rw [Char.ofNat, dif_pos hv]
    rfl
  exact ⟨_, more, behind, rfl, by rw [utf8EncodeChar_eq, hnat, hform], hmore⟩

theorem begins_one (hb : b.toNat < 0x80) (h : decodeFrom start (b :: rest) = .ok cs) :
    Begins (b :: rest) cs := by
  rw [decodeFrom_one rfl hb] at h
  exact begins_of_encoded (.inl (by omega)) (encoded_one hb) h

theorem begins_two (hb : 0xc2 ≤ b.toNat) (hb' : b.toNat < 0xe0)
    (h : decodeFrom start (b :: rest) = .ok cs) : Begins (b :: rest) cs := by
  rw [decodeFrom_first rfl (first?_two hb hb') Nat.one_ne_zero] at h
  obtain ⟨b₁, rest, rfl, h₁⟩ := exists_next h
  rw [decodeFrom_last rfl h₁] at h
  exact begins_of_encoded (.inl (by omega)) (encoded_two hb hb' h₁ rfl) h

theorem begins_three (hb : 0xe0 ≤ b.toNat) (hb' : b.toNat < 0xf0)
    (h : decodeFrom start (b :: rest) = .ok cs) : Begins (b :: rest) cs := by
  rw [decodeFrom_first rfl (first?_three hb hb') (Nat.succ_ne_zero 1)] at h
  obtain ⟨b₁, rest, rfl, h₁⟩ := exists_next h
  rw [decodeFrom_next rfl h₁] at h
  obtain ⟨b₂, rest, rfl, h₂⟩ := exists_next h
  rw [decodeFrom_last rfl h₂] at h
  obtain ⟨hlow, hhigh⟩ := h₁
  -- The bounds of the second byte keep out forms that are too long, and surrogates.
  have hlow' : b.toNat = 0xe0 → 0xa0 ≤ b₁.toNat := fun hb => by rwa [if_pos hb] at hlow
  have hhigh' : b.toNat = 0xed → b₁.toNat ≤ 0x9f := fun hb => by rwa [if_pos hb] at hhigh
  have h₁ : 0x80 ≤ b₁.toNat ∧ b₁.toNat ≤ 0xbf := by
    split at hlow <;> split at hhigh <;> omega
  have hvalid : (64 * (64 * (b.toNat - 0xe0) + (b₁.toNat - 0x80)) +
      (b₂.toNat - 0x80)).isValidChar := by
    unfold Nat.isValidChar
    omega
  exact begins_of_encoded hvalid (encoded_three hb hb' hlow' h₁ h₂ rfl) h

theorem begins_four (hb : 0xf0 ≤ b.toNat) (hb' : b.toNat < 0xf5)
    (h : decodeFrom start (b :: rest) = .ok cs) : Begins (b :: rest) cs := by
  rw [decodeFrom_first rfl (first?_four hb hb') (Nat.succ_ne_zero 2)] at h
  obtain ⟨b₁, rest, rfl, h₁⟩ := exists_next h
  rw [decodeFrom_next rfl h₁] at h
  obtain ⟨b₂, rest, rfl, h₂⟩ := exists_next h
  rw [decodeFrom_next rfl h₂] at h
  obtain ⟨b₃, rest, rfl, h₃⟩ := exists_next h
  rw [decodeFrom_last rfl h₃] at h
  obtain ⟨hlow, hhigh⟩ := h₁
  -- Here they keep out forms that are too long, and numbers beyond the last character.
  have hlow' : b.toNat = 0xf0 → 0x90 ≤ b₁.toNat := fun hb => by rwa [if_pos hb] at hlow
  have hhigh' : b.toNat = 0xf4 → b₁.toNat ≤ 0x8f := fun hb => by rwa [if_pos hb] at hhigh
  have h₁ : 0x80 ≤ b₁.toNat ∧ b₁.toNat ≤ 0xbf := by
    split at hlow <;> split at hhigh <;> omega
  have hvalid : (64 * (64 * (64 * (b.toNat - 0xf0) + (b₁.toNat - 0x80)) + (b₂.toNat - 0x80)) +
      (b₃.toNat - 0x80)).isValidChar := by
    unfold Nat.isValidChar
    omega
  exact begins_of_encoded hvalid (encoded_four hb hb' hlow' h₁ h₂ h₃ rfl) h

theorem begins_of_decodeFrom (h : decodeFrom start (b :: rest) = .ok cs) :
    Begins (b :: rest) cs := by
  have hcases : b.toNat < 0x80 ∨ (0x80 ≤ b.toNat ∧ (b.toNat < 0xc2 ∨ 0xf5 ≤ b.toNat)) ∨
      (0xc2 ≤ b.toNat ∧ b.toNat < 0xe0) ∨ (0xe0 ≤ b.toNat ∧ b.toNat < 0xf0) ∨
      0xf0 ≤ b.toNat ∧ b.toNat < 0xf5 := by omega
  obtain hone | ⟨hlow, hnone⟩ | ⟨hlow, hhigh⟩ | ⟨hlow, hhigh⟩ | ⟨hlow, hhigh⟩ := hcases
  · exact begins_one hone h
  · simp only [start, decodeFrom, first?_none hlow hnone] at h
    cases h
  · exact begins_two hlow hhigh h
  · exact begins_three hlow hhigh h
  · exact begins_four hlow hhigh h

end Begins

theorem eq_encode_of_decode {bytes : List UInt8} {cs : List Char} (h : decode bytes = .ok cs) :
    bytes = encode cs := by
  induction hn : bytes.length using Nat.strongRecOn generalizing bytes cs with
  | _ n ih =>
    cases bytes with
    | nil =>
      cases h
      rfl
    | cons b rest =>
      obtain ⟨c, more, behind, rfl, hbytes, hbehind⟩ := begins_of_decodeFrom h
      have hshorter : behind.length < n := by
        have hchar : (String.utf8EncodeChar c).length ≠ 0 := by
          rw [List.length_eq_zero_iff.ne]
          exact String.utf8EncodeChar_ne_nil
        have hlength := congrArg List.length hbytes
        rw [List.length_append] at hlength
        omega
      rw [hbytes, ih _ hshorter hbehind rfl]
      rfl

/-- Bytes are read as a text if and only if they are its form. -/
theorem decode_eq_ok_iff {bytes : List UInt8} {cs : List Char} :
    decode bytes = .ok cs ↔ bytes = encode cs :=
  ⟨eq_encode_of_decode, fun h => h ▸ decode_encode cs⟩

end ServerUi.Utf8
