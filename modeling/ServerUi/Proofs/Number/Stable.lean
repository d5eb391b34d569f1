import Mathlib.Tactic.Ring
import ServerUi.Proofs.Number.Whole

/-! Rounding is stable: a fraction that is much nearer to a double than the double's neighbours are
rounds to that double, however the fraction is written. -/

namespace ServerUi

section Nearest

variable {num den : Nat}

theorem nearest_eq {count : Nat} (hden : 0 < den) (hbelow : 2 * (count * den) < 2 * num + den)
    (habove : 2 * num < 2 * (count * den) + den) : nearest num den = count := by
  have hdiv := Nat.div_add_mod num den
  have hmod := Nat.mod_lt num hden
  have hcases := nearest_cases num den
  rw [Nat.mul_comm] at hdiv
  generalize num / den = quotient at *
  generalize num % den = rest at *
  rcases Nat.lt_trichotomy quotient count with hlt | rfl | hgt
  · have hstep : (quotient + 1) * den ≤ count * den := Nat.mul_le_mul_right den hlt
    rw [Nat.add_one_mul] at hstep
    -- The quotient is the one below, as anything smaller is too far away.
    by_cases hnext : quotient + 1 = count
    · subst hnext
      rw [Nat.add_one_mul] at hbelow habove
      omega
    · have hfar : (quotient + 1 + 1) * den ≤ count * den := Nat.mul_le_mul_right den (by omega)
      rw [Nat.add_one_mul, Nat.add_one_mul] at hfar
      omega
  · omega
  · have hstep : (count + 1) * den ≤ quotient * den := Nat.mul_le_mul_right den hgt
    rw [Nat.add_one_mul] at hstep
    omega

theorem nearest_error (hden : 0 < den) :
    2 * (nearest num den * den) ≤ 2 * num + den ∧ 2 * num ≤ 2 * (nearest num den * den) + den := by
  have hdiv := Nat.div_add_mod num den
  have hmod := Nat.mod_lt num hden
  rw [Nat.mul_comm] at hdiv
  rcases nearest_cases num den with ⟨h, hrest⟩ | ⟨h, hrest⟩
  · rw [h]
    omega
  · rw [h, Nat.add_one_mul (num / den) den]
    omega

theorem nearest_mul_left {k : Nat} (hk : 0 < k) (num den : Nat) :
    nearest (k * num) (k * den) = nearest num den := by
  have hdiv : k * num / (k * den) = num / den := Nat.mul_div_mul_left num den hk
  have hmod : k * num % (k * den) = k * (num % den) := Nat.mul_mod_mul_left k num den
  have htwice : 2 * (k * (num % den)) = k * (2 * (num % den)) := Nat.mul_left_comm 2 k _
  simp only [nearest, hdiv, hmod, htwice, Nat.mul_lt_mul_left hk]

end Nearest

section Fractions

variable {num den num' den' : Nat}

theorem roundUnits_mul_left {k : Nat} (hk : 0 < k) (num den : Nat) :
    roundUnits (k * num) (k * den) = roundUnits num den := by
  have hdiv : k * num / (k * den) = num / den := Nat.mul_div_mul_left num den hk
  simp only [roundUnits, hdiv, Nat.mul_assoc, nearest_mul_left hk]

/-- Equal fractions are rounded to the same double. -/
theorem roundUnits_congr (hden : 0 < den) (hden' : 0 < den') (h : num * den' = num' * den) :
    roundUnits num den = roundUnits num' den' :=
  calc roundUnits num den
      = roundUnits (den' * num) (den' * den) := (roundUnits_mul_left hden' num den).symm
    _ = roundUnits (den * num') (den * den') := by
        rw [Nat.mul_comm den' num, h, Nat.mul_comm num' den, Nat.mul_comm den' den]
    _ = roundUnits num' den' := roundUnits_mul_left hden num' den'

theorem roundUnits_zero (den : Nat) : roundUnits 0 den = 0 := by
  have hnearest (d : Nat) : nearest 0 d = 0 := by
    rcases nearest_cases 0 d with ⟨h, -⟩ | ⟨-, h⟩
    · rw [h, Nat.zero_div]
    · rw [Nat.zero_mod] at h
      obtain rfl : d = 0 := by omega
      rfl
  rw [roundUnits, hnearest, Nat.zero_mul]

/-- Less than half of the smallest double is rounded to zero. -/
theorem roundUnits_of_lt (h : 2 * num < den) : roundUnits num den = 0 := by
  have hquotient : num / den = 0 := Nat.div_eq_of_lt (by omega)
  have hstep : twoPower (excessDigits 0) = 1 := by decide
  have hnearest : nearest num den = 0 :=
    nearest_eq (by omega) (by omega) (by omega)
  simp only [roundUnits, hquotient, hstep, Nat.mul_one, hnearest]

end Fractions

section Short

variable {units num den : Nat}

theorem Short.dvd (h : Short units) {k : Nat} (hk : twoPower (52 + k) ≤ units) :
    twoPower k ∣ units := by
  obtain ⟨m, j, hm, rfl⟩ := h
  rcases Nat.lt_or_ge j k with hjk | hkj
  · have hreach : twoPower 53 * twoPower j ≤ m * twoPower j := by
      refine Nat.le_trans ?_ hk
      rw [← twoPower_add]
      exact twoPower_le _ _ (by omega)
    -- Only the largest significand reaches so far, and it is a power of two itself.
    have hmax : m = twoPower 53 :=
      Nat.le_antisymm hm (Nat.le_of_mul_le_mul_right hreach (twoPower_pos j))
    have hlast : k ≤ 53 + j := by
      by_contra hfar
      have hlt : twoPower 53 * twoPower j < twoPower (52 + k) := by
        rw [← twoPower_add]
        exact twoPower_lt (by omega)
      rw [hmax] at hk
      omega
    rw [hmax, ← twoPower_add]
    exact twoPower_dvd hlast
  · exact Nat.dvd_mul_left_of_dvd (twoPower_dvd hkj) m

/-- The fraction is in the binade of its excess digits, of which there are none below `2 ^ 53`. -/
theorem excess_bounds (hden : 0 < den) :
    num < twoPower 53 * (twoPower (excessDigits (num / den)) * den) ∧
      (excessDigits (num / den) ≠ 0 →
        twoPower 52 * (twoPower (excessDigits (num / den)) * den) ≤ num) := by
  constructor
  · have hlt : num / den / twoPower (excessDigits (num / den)) < twoPower 53 := div_excess_lt _
    rwa [Nat.div_lt_iff_lt_mul (twoPower_pos _), Nat.div_lt_iff_lt_mul hden, Nat.mul_assoc] at hlt
  · intro hexcess
    have hlog : (num / den).log2 = 52 + excessDigits (num / den) := by
      rw [excessDigits] at hexcess ⊢
      omega
    have hne : num / den ≠ 0 := by
      intro hzero
      rw [hzero, Nat.log2_zero] at hlog
      omega
    have hle : twoPower (num / den).log2 ≤ num / den := Nat.log2_self_le hne
    rwa [hlog, twoPower_add, Nat.le_div_iff_mul_le hden, Nat.mul_assoc] at hle

/-- The fraction differs from the units by less than one part in `2 ^ 54`. -/
structure Close (num den units : Nat) : Prop where
  below : units * den * 18014398509481984 < num * 18014398509481984 + units * den
  above : num * 18014398509481984 < units * den * 18014398509481984 + units * den

section Close

variable {k : Nat} (h : Close num den units) (hshort : Short units)

include h hshort

/-- Units close to a fraction in a binade do not lie far enough below it to be between its steps. -/
theorem Close.dvd (hlow : k ≠ 0 → 4503599627370496 * (twoPower k * den) ≤ num) :
    twoPower k ∣ units := by
  have hbelow := h.below
  have habove := h.above
  by_cases hzero : k = 0
  · rw [hzero]
    exact Nat.one_dvd units
  obtain ⟨j, rfl⟩ : ∃ j, k = j + 1 := ⟨k - 1, by omega⟩
  have hlow := hlow hzero
  have h52 : twoPower 52 = 4503599627370496 := by decide
  by_contra hnot
  have hunder : units < twoPower (52 + (j + 1)) := by
    by_contra hover
    exact hnot (hshort.dvd (by omega))
  rw [twoPower_succ, Nat.mul_assoc 2] at hlow
  by_cases hhalf : twoPower (52 + j) ≤ units
  · obtain ⟨count, rfl⟩ := hshort.dvd hhalf
    have hcount : twoPower j * count < twoPower j * 9007199254740992 := by
      rw [twoPower_add, h52, twoPower_succ] at hunder
      omega
    have hmost : count ≤ 9007199254740991 := Nat.le_of_lt_succ (Nat.lt_of_mul_lt_mul_left hcount)
    have hscale : twoPower j * count * den ≤ 9007199254740991 * (twoPower j * den) :=
      calc twoPower j * count * den = count * (twoPower j * den) := by ring
        _ ≤ 9007199254740991 * (twoPower j * den) := Nat.mul_le_mul_right _ hmost
    omega
  · have hscale : units * den ≤ 4503599627370496 * (twoPower j * den) := by
      rw [← Nat.mul_assoc, ← h52, ← twoPower_add]
      exact Nat.mul_le_mul_right _ (by omega)
    omega

/-- Nor do they lie beyond the first of the next binade. -/
theorem Close.le (hhigh : num < 9007199254740992 * (twoPower k * den)) :
    units ≤ 9007199254740992 * twoPower k := by
  have hbelow := h.below
  have h52 : twoPower 52 = 4503599627370496 := by decide
  by_contra hover
  have hnext : twoPower (52 + (k + 1)) ≤ units := by
    rw [twoPower_add, h52, twoPower_succ]
    omega
  obtain ⟨count, rfl⟩ := hshort.dvd hnext
  have hleast : 4503599627370496 < count := by
    refine Nat.lt_of_mul_lt_mul_left (a := twoPower (k + 1)) ?_
    calc twoPower (k + 1) * 4503599627370496
        = 9007199254740992 * twoPower k := by rw [twoPower_succ]; ring
      _ < twoPower (k + 1) * count := Nat.not_le.mp hover
  have hscale : 9007199254740994 * (twoPower k * den) ≤ twoPower (k + 1) * count * den :=
    calc 9007199254740994 * (twoPower k * den) = 4503599627370497 * (2 * (twoPower k * den)) := by
          omega
      _ ≤ count * (2 * (twoPower k * den)) := Nat.mul_le_mul_right _ hleast
      _ = twoPower (k + 1) * count * den := by rw [twoPower_succ]; ring
  clear hover hnext hleast
  generalize twoPower (k + 1) * count * den = total at *
  generalize twoPower k * den = step at *
  omega

/-- A fraction close to a double is rounded to it. -/
theorem Close.roundUnits_eq (hden : 0 < den) : roundUnits num den = units := by
  have hbelow := h.below
  have habove := h.above
  have h53 : twoPower 53 = 9007199254740992 := by decide
  have h52 : twoPower 52 = 4503599627370496 := by decide
  obtain ⟨hhigh, hlow⟩ := @excess_bounds num den hden
  rw [roundUnits]
  generalize excessDigits (num / den) = k at *
  rw [h53] at hhigh
  rw [h52] at hlow
  have htop := h.le hshort hhigh
  obtain ⟨count, rfl⟩ := h.dvd hshort hlow
  have hscale : twoPower k * count * den ≤ 9007199254740992 * (twoPower k * den) := by
    rw [← Nat.mul_assoc]
    exact Nat.mul_le_mul_right den htop
  have hcomm : count * (den * twoPower k) = twoPower k * count * den := by ring
  have hnearest : nearest num (den * twoPower k) = count := by
    refine nearest_eq (Nat.mul_pos hden (twoPower_pos k)) ?_ ?_
    all_goals
      rw [hcomm, Nat.mul_comm den]
      omega
  rw [hnearest, Nat.mul_comm]

end Close

end Short

end ServerUi
