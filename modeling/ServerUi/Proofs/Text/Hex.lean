import Mathlib.Algebra.Group.Nat.Defs
import Mathlib.Data.List.Induction
import Mathlib.Tactic.Common
import ServerUi.Text.Hex

/-! Hexadecimal digits are read as the number they were written for, with small letters and with
large ones. -/

namespace ServerUi

theorem length_hexDigits (letters : Char) (count n : Nat) :
    (hexDigits letters count n).length = count := by
  induction count generalizing n with
  | zero => rfl
  | succ count ih => rw [hexDigits, List.length_append, ih, List.length_singleton]

theorem hexValue?_lt {c : Char} {d : Nat} (h : hexValue? c = some d) : d < 16 := by
  unfold hexValue? at h
  split at h
  · next hc =>
    have hd := Option.some.inj h
    have hlast : c.toNat ≤ '9'.toNat := hc.2
    change c.toNat ≤ 57 at hlast
    change c.toNat - 48 = d at hd
    omega
  · split at h
    · next hc =>
      have hd := Option.some.inj h
      have hlast : c.toNat ≤ 'f'.toNat := hc.2
      change c.toNat ≤ 102 at hlast
      change c.toNat - 97 + 10 = d at hd
      omega
    · split at h
      · next hc =>
        have hd := Option.some.inj h
        have hlast : c.toNat ≤ 'F'.toNat := hc.2
        change c.toNat ≤ 70 at hlast
        change c.toNat - 65 + 10 = d at hd
        omega
      · cases h

theorem hexNumber?_lt {cs : List Char} {n : Nat} (h : hexNumber? cs = some n) :
    n < 16 ^ cs.length := by
  -- A number that is read from its end: what is in front is smaller by one digit.
  induction cs using List.reverseRecOn generalizing n with
  | nil =>
    obtain rfl := Option.some.inj h
    decide
  | append_singleton cs c ih =>
    rw [hexNumber?, List.foldl_append] at h
    obtain ⟨front, hfront, h⟩ := Option.bind_eq_some_iff.mp h
    obtain ⟨d, hd, h⟩ := Option.bind_eq_some_iff.mp h
    have hn := Option.some.inj h
    have hlt := ih hfront
    have hdigit := hexValue?_lt hd
    rw [List.length_append, List.length_singleton, Nat.pow_succ]
    omega

theorem hexNumber?_concat (cs : List Char) (c : Char) :
    hexNumber? (cs ++ [c]) =
      (hexNumber? cs).bind fun n => (hexValue? c).bind fun d => some (16 * n + d) := by
  rw [hexNumber?, List.foldl_append]
  rfl

/-- Digits are worth what they are worth alone, moved to the left by those behind them. -/
theorem hexNumber?_append (cs ds : List Char) :
    hexNumber? (cs ++ ds) =
      (hexNumber? cs).bind fun n => (hexNumber? ds).bind fun m => some (16 ^ ds.length * n + m) := by
  induction ds using List.reverseRecOn with
  | nil =>
    have hnone : hexNumber? [] = some 0 := rfl
    simp [hnone]
  | append_singleton ds d ih =>
    rw [← List.append_assoc, hexNumber?_concat, hexNumber?_concat, ih]
    rcases hexNumber? cs with - | n
    · rfl
    rcases hexNumber? ds with - | m
    · rfl
    rcases hexValue? d with - | last
    · rfl
    simp only [Option.bind_some, List.length_append, List.length_singleton, Nat.pow_succ]
    grind

theorem hexValue?_hexDigit : ∀ letters ∈ ['a', 'A'], ∀ d < 16,
    hexValue? (hexDigit letters d) = some d :=
  List.forall_mem_cons.mpr ⟨by decide, List.forall_mem_singleton.mpr (by decide)⟩

theorem hexNumber?_hexDigits {letters : Char} (hletters : letters ∈ ['a', 'A']) {count n : Nat}
    (hn : n < 16 ^ count) : hexNumber? (hexDigits letters count n) = some n := by
  induction count generalizing n with
  | zero =>
    rw [Nat.pow_zero] at hn
    obtain rfl : n = 0 := by omega
    rfl
  | succ count ih =>
    rw [Nat.pow_succ] at hn
    have hfront := @ih (n / 16) (by omega)
    have hlast := hexValue?_hexDigit letters hletters (n % 16) (Nat.mod_lt n (by decide))
    rw [hexNumber?] at hfront
    rw [hexDigits, hexNumber?, List.foldl_append, hfront]
    change (hexValue? (hexDigit letters (n % 16))).bind (fun d => some (16 * (n / 16) + d)) = some n
    rw [hlast, Option.bind_some, Nat.div_add_mod]

theorem hexDigits_injective {letters : Char} (hletters : letters ∈ ['a', 'A']) {count n m : Nat}
    (hn : n < 16 ^ count) (hm : m < 16 ^ count)
    (h : hexDigits letters count n = hexDigits letters count m) : n = m := by
  have hread := congrArg hexNumber? h
  rw [hexNumber?_hexDigits hletters hn, hexNumber?_hexDigits hletters hm] at hread
  exact Option.some.inj hread

theorem hexDigit_upper : ∀ d < 16, hexDigit 'A' d = (Nat.digitChar d).toUpper := by decide

theorem leftpad_concat (count : Nat) (pad c : Char) (cs : List Char) :
    (cs ++ [c]).leftpad (count + 1) pad = cs.leftpad count pad ++ [c] := by
  rw [List.leftpad, List.leftpad, List.length_append, List.length_singleton,
    Nat.add_sub_add_right, List.append_assoc]

/-- Large hexadecimal digits of a given count are the digits of the number, filled up with zeros. -/
theorem hexDigits_upper (count : Nat) {n : Nat} (hn : n < 16 ^ (count + 1)) :
    hexDigits 'A' (count + 1) n =
      ((Nat.toDigits 16 n).leftpad (count + 1) '0').map Char.toUpper := by
  induction count generalizing n with
  | zero =>
    have hdigit : n < 16 := by simpa using hn
    rw [Nat.toDigits_of_lt_base hdigit, hexDigits, hexDigits, Nat.mod_eq_of_lt hdigit,
      hexDigit_upper n hdigit]
    rfl
  | succ count ih =>
    rw [Nat.pow_succ] at hn
    have hfront := @ih (n / 16) (by omega)
    rw [hexDigits, hfront, hexDigit_upper _ (Nat.mod_lt n (by decide))]
    by_cases hn16 : 16 ≤ n
    · rw [Nat.toDigits_of_base_le (by decide) hn16, leftpad_concat, List.map_append]
      rfl
    · have hdigit : n < 16 := Nat.lt_of_not_le hn16
      have hzero : n / 16 = 0 := Nat.div_eq_of_lt hdigit
      -- In front of a single digit there is a zero in each of the other places.
      have hpad : (Nat.toDigits 16 0).leftpad (count + 1) '0' = [].leftpad (count + 1) '0' := by
        rw [Nat.toDigits_of_lt_base (by decide)]
        exact (leftpad_concat count '0' '0' []).trans (by simp [List.leftpad, List.replicate_succ'])
      rw [Nat.toDigits_of_lt_base hdigit, Nat.mod_eq_of_lt hdigit, hzero, hpad,
        ← List.nil_append [n.digitChar], leftpad_concat, List.map_append]
      rfl

end ServerUi
