import Mathlib.Tactic.Common
import ServerUi.Field

/-! Whole numbers as doubles. A double is found for all of them up to half a step above the largest
finite double; a small one is met exactly, and a large one is not moved into the small ones. -/

namespace ServerUi

theorem twoPower_lt {k l : Nat} (h : k < l) : twoPower k < twoPower l :=
  Nat.pow_lt_pow_right (by decide) h

theorem twoPower_dvd {k l : Nat} (h : k ≤ l) : twoPower k ∣ twoPower l := Nat.pow_dvd_pow 2 h

theorem log2_lt_of_lt_twoPower {n k : Nat} (hn : n ≠ 0) (h : n < twoPower k) : n.log2 < k :=
  (Nat.log2_lt hn).mpr h

theorem twoPower_succ (k : Nat) : twoPower (k + 1) = 2 * twoPower k := Nat.pow_succ'

theorem nearest_cases (num den : Nat) :
    (nearest num den = num / den ∧ 2 * (num % den) ≤ den) ∨
      (nearest num den = num / den + 1 ∧ den ≤ 2 * (num % den)) := by
  unfold nearest
  dsimp only
  split
  · exact .inl ⟨rfl, by omega⟩
  · split
    · exact .inr ⟨rfl, by omega⟩
    · have hparity := Nat.mod_two_eq_zero_or_one (num / den)
      rcases hparity with heven | hodd
      · exact .inl ⟨by omega, by omega⟩
      · exact .inr ⟨by omega, by omega⟩

theorem nearest_up {num den : Nat} (hodd : num / den % 2 = 1) (h : den ≤ 2 * (num % den)) :
    nearest num den = num / den + 1 := by
  unfold nearest
  dsimp only
  have hnot : ¬ 2 * (num % den) < den := by omega
  rw [if_neg hnot]
  split
  · rfl
  · omega

/-- The distance between the doubles around a whole number of units. -/
def stepAt (units : Nat) : Nat := twoPower (excessDigits units)

theorem roundUnits_one (units : Nat) :
    roundUnits units 1 = nearest units (stepAt units) * stepAt units := by
  simp only [roundUnits, stepAt, Nat.div_one, Nat.one_mul]

theorem stepAt_pos (units : Nat) : 0 < stepAt units := twoPower_pos _

theorem stepAt_le {units : Nat} (h : 0 < units) : stepAt units ≤ units := by
  have hlog : twoPower units.log2 ≤ units := Nat.log2_self_le (by omega)
  have hexcess : excessDigits units ≤ units.log2 := Nat.sub_le _ _
  exact Nat.le_trans (twoPower_le _ _ hexcess) hlog

theorem roundUnits_of_dvd {units : Nat} (h : stepAt units ∣ units) :
    roundUnits units 1 = units := by
  obtain ⟨count, hcount⟩ := h
  have hpos := stepAt_pos units
  have hdiv : units / stepAt units = count :=
    Nat.div_eq_of_eq_mul_right hpos hcount
  have hmod : units % stepAt units = 0 := by
    exact Nat.mod_eq_zero_of_dvd ⟨count, hcount⟩
  have hnearest : nearest units (stepAt units) = count := by
    rcases nearest_cases units (stepAt units) with ⟨h, -⟩ | ⟨-, h⟩
    · rw [h, hdiv]
    · omega
  rw [roundUnits_one, hnearest, Nat.mul_comm]
  exact hcount.symm

/-- Rounding does not halve a number of units. -/
theorem le_two_mul_roundUnits (units : Nat) : units ≤ 2 * roundUnits units 1 := by
  rcases Nat.eq_zero_or_pos units with rfl | hunits
  · exact Nat.zero_le _
  · have hstep := stepAt_le hunits
    have hpos := stepAt_pos units
    have hdiv := Nat.div_add_mod units (stepAt units)
    have hmod := Nat.mod_lt units hpos
    have hone : 1 ≤ units / stepAt units := (Nat.one_le_div_iff hpos).mpr hstep
    have hbelow : units / stepAt units ≤ nearest units (stepAt units) := by
      rcases nearest_cases units (stepAt units) with ⟨h, -⟩ | ⟨h, -⟩ <;> omega
    rw [roundUnits_one]
    generalize stepAt units = step at *
    generalize units / step = count at *
    have hproduct : step * count ≤ nearest units step * step := by
      rw [Nat.mul_comm]
      exact Nat.mul_le_mul_right step hbelow
    have hwhole : step ≤ step * count := Nat.le_mul_of_pos_right step hone
    omega

theorem nearest_stepAt_le (units : Nat) : nearest units (stepAt units) ≤ twoPower 53 :=
  nearest_le _ _ _ (div_excess_lt units)

theorem stepAt_eq {units : Nat} {k : Nat} (h : units.log2 = k + 52) : stepAt units = twoPower k := by
  rw [stepAt, excessDigits, h, Nat.add_sub_cancel]

/-- Numbers of units below the last power of two stay below the limit. -/
theorem roundUnits_lt_of_log2 {units : Nat} (h : units.log2 ≤ 2096) :
    roundUnits units 1 < unitsLimit := by
  have hstep : stepAt units ≤ twoPower 2044 := by
    apply twoPower_le
    unfold excessDigits
    omega
  have hnearest := nearest_stepAt_le units
  rw [roundUnits_one]
  calc nearest units (stepAt units) * stepAt units
      ≤ twoPower 53 * twoPower 2044 := Nat.mul_le_mul hnearest hstep
    _ = twoPower 2097 := (twoPower_add 53 2044).symm
    _ < unitsLimit := twoPower_lt (by decide)

theorem unitsLimit_le_roundUnits {units : Nat} (h : 2098 ≤ units.log2) :
    unitsLimit ≤ roundUnits units 1 := by
  have hunits : units ≠ 0 := by
    rintro rfl
    rw [Nat.log2_zero] at h
    omega
  obtain ⟨k, hk⟩ : ∃ k, units.log2 = k + 52 := ⟨units.log2 - 52, by omega⟩
  have hstep := stepAt_eq hk
  have hlog : twoPower units.log2 ≤ units := Nat.log2_self_le hunits
  have hquotient : twoPower 52 ≤ units / stepAt units := by
    rw [Nat.le_div_iff_mul_le (stepAt_pos units), hstep, ← twoPower_add, Nat.add_comm, ← hk]
    exact hlog
  have hbelow : units / stepAt units ≤ nearest units (stepAt units) := by
    rcases nearest_cases units (stepAt units) with ⟨h, -⟩ | ⟨h, -⟩ <;> omega
  rw [roundUnits_one]
  calc unitsLimit
      ≤ twoPower (52 + k) := twoPower_le _ _ (by omega)
    _ = twoPower 52 * stepAt units := by rw [twoPower_add, hstep]
    _ ≤ nearest units (stepAt units) * stepAt units :=
        Nat.mul_le_mul_right _ (Nat.le_trans hquotient hbelow)

/-- Between the last power of two and the limit, the upper half of the last step goes up. -/
theorem roundUnits_lt_iff_of_log2 {units : Nat} (h : units.log2 = 2097) :
    roundUnits units 1 < unitsLimit ↔ units < (twoPower 54 - 1) * twoPower 2044 := by
  have hstep : stepAt units = 2 * twoPower 2044 := (stepAt_eq h).trans (twoPower_succ 2044)
  have hlimit : unitsLimit = twoPower 53 * (2 * twoPower 2044) := by
    rw [unitsLimit, ← twoPower_succ, ← twoPower_add]
  have hfraction : units / stepAt units < twoPower 53 := div_excess_lt units
  have hdiv := Nat.div_add_mod units (stepAt units)
  have hmod := Nat.mod_lt units (stepAt_pos units)
  have hpos : 0 < 2 * twoPower 2044 := Nat.mul_pos (by decide) (twoPower_pos 2044)
  have hcases := nearest_cases units (2 * twoPower 2044)
  have hup := @nearest_up units (2 * twoPower 2044)
  have h53 : twoPower 53 = 9007199254740992 := by decide
  have h54 : twoPower 54 = 18014398509481984 := by decide
  rw [hstep] at hfraction hdiv hmod
  rw [roundUnits_one, hlimit, hstep, Nat.mul_lt_mul_right hpos, h54]
  rw [h53] at hfraction ⊢
  generalize twoPower 2044 = half at *
  generalize nearest units (2 * half) = count at *
  generalize units / (2 * half) = quotient at *
  generalize units % (2 * half) = rest at *
  -- Only the last quotient below the limit can be rounded up to it.
  by_cases hlast : quotient = 9007199254740991
  · subst hlast
    omega
  · have hquotient : quotient + 1 ≤ 9007199254740991 := by omega
    have hunits : 2 * half * (quotient + 1) ≤ 2 * half * 9007199254740991 :=
      Nat.mul_le_mul_left _ hquotient
    rw [Nat.mul_add_one] at hunits
    omega

theorem roundUnits_lt_limit_iff (units : Nat) :
    roundUnits units 1 < unitsLimit ↔ units < (twoPower 54 - 1) * twoPower 2044 := by
  have hlog : units < twoPower (units.log2 + 1) := lt_twoPower_log2 units
  have h54 : twoPower 53 ≤ twoPower 54 - 1 ∧ twoPower 54 - 1 ≤ twoPower 54 := by decide
  rcases Nat.lt_trichotomy units.log2 2097 with hsmall | hlast | hlarge
  · have hbelow : units < (twoPower 54 - 1) * twoPower 2044 :=
      calc units < twoPower (units.log2 + 1) := hlog
        _ ≤ twoPower (53 + 2044) := twoPower_le _ _ (by omega)
        _ = twoPower 53 * twoPower 2044 := twoPower_add 53 2044
        _ ≤ (twoPower 54 - 1) * twoPower 2044 := Nat.mul_le_mul_right _ h54.1
    exact iff_of_true (roundUnits_lt_of_log2 (by omega)) hbelow
  · exact roundUnits_lt_iff_of_log2 hlast
  · have hunits : units ≠ 0 := by
      rintro rfl
      rw [Nat.log2_zero] at hlarge
      omega
    have habove : (twoPower 54 - 1) * twoPower 2044 ≤ units :=
      calc (twoPower 54 - 1) * twoPower 2044
          ≤ twoPower 54 * twoPower 2044 := Nat.mul_le_mul_right _ h54.2
        _ = twoPower (54 + 2044) := (twoPower_add 54 2044).symm
        _ ≤ twoPower units.log2 := twoPower_le _ _ (by omega)
        _ ≤ units := Nat.log2_self_le hunits
    have hround : unitsLimit ≤ roundUnits units 1 := unitsLimit_le_roundUnits (by omega)
    exact iff_of_false (by omega) (by omega)

namespace Double

/-- The first whole number without a double, half a step above the largest finite one. -/
def wholeLimit : Nat := (twoPower 54 - 1) * twoPower 970

theorem ofInt?_eq_none_iff (n : Int) : ofInt? n = none ↔ wholeLimit ≤ n.natAbs := by
  have hunits : n.natAbs * unitsPerOne < (twoPower 54 - 1) * twoPower 2044 ↔
      n.natAbs < wholeLimit := by
    have hsplit : (twoPower 54 - 1) * twoPower 2044 = wholeLimit * unitsPerOne := by
      rw [wholeLimit, unitsPerOne, Nat.mul_assoc, ← twoPower_add]
    rw [hsplit, Nat.mul_lt_mul_right unitsPerOne_pos]
  have hround := (roundUnits_lt_limit_iff (n.natAbs * unitsPerOne)).trans hunits
  rw [ofInt?, round?]
  split
  · next h => exact iff_of_false (by simp) (by omega)
  · next h => exact iff_of_true rfl (by omega)

theorem eq_finite_of_ofInt? {n : Int} {x : Double} (h : ofInt? n = some x) :
    ∃ hshort hsmall,
      x = finite (decide (n < 0)) (roundUnits (n.natAbs * unitsPerOne) 1) hshort hsmall := by
  rw [ofInt?, round?] at h
  split at h
  · exact ⟨_, _, (Option.some.inj h).symm⟩
  · cases h

theorem isNonnegative_of_ofInt? {n : Int} {x : Double} (h : ofInt? n = some x) :
    x.isNonnegative = decide (0 ≤ n) := by
  obtain ⟨hshort, hsmall, rfl⟩ := eq_finite_of_ofInt? h
  rw [isNonnegative]
  by_cases hn : n < 0
  · have hunits : 0 < n.natAbs * unitsPerOne := Nat.mul_pos (by omega) unitsPerOne_pos
    have hround := le_two_mul_roundUnits (n.natAbs * unitsPerOne)
    have hne : roundUnits (n.natAbs * unitsPerOne) 1 ≠ 0 := by omega
    have hnot : ¬ 0 ≤ n := by omega
    simp only [hn, hnot, hne, decide_true, decide_false, Bool.not_true, Bool.false_or,
      beq_eq_false_iff_ne, ne_eq, not_false_eq_true]
  · have hle : 0 ≤ n := by omega
    simp only [hn, hle, decide_true, decide_false, Bool.not_false, Bool.true_or]

theorem roundUnits_whole {n : Nat} (h : n < twoPower 53) :
    roundUnits (n * unitsPerOne) 1 = n * unitsPerOne := by
  have hlog : (n * unitsPerOne).log2 ≤ 1126 := by
    rcases Nat.eq_zero_or_pos n with rfl | hn
    · rw [Nat.zero_mul, Nat.log2_zero]
      exact Nat.zero_le _
    · have hunits : n * unitsPerOne ≠ 0 := Nat.mul_ne_zero (by omega) (Nat.ne_of_gt unitsPerOne_pos)
      have hbelow : n * unitsPerOne < twoPower (53 + 1074) := by
        rw [unitsPerOne, twoPower_add]
        exact Nat.mul_lt_mul_of_pos_right h (twoPower_pos 1074)
      have hlt : (n * unitsPerOne).log2 < 53 + 1074 := log2_lt_of_lt_twoPower hunits hbelow
      omega
  have hexcess : excessDigits (n * unitsPerOne) ≤ 1074 := by
    unfold excessDigits
    omega
  have hstep : stepAt (n * unitsPerOne) ∣ unitsPerOne := twoPower_dvd hexcess
  exact roundUnits_of_dvd (Nat.dvd_mul_left_of_dvd hstep n)

theorem toInt?_finite (negative : Bool) {units : Nat} (hshort : Short units)
    (hsmall : units < unitsLimit) :
    (finite negative units hshort hsmall).toInt? =
      if units % unitsPerOne = 0 then
        some (if negative then -((units / unitsPerOne : Nat) : Int) else (units / unitsPerOne : Nat))
      else none :=
  rfl

/-- A small whole number is the whole number that its double is. -/
theorem toInt?_of_ofInt? {n : Int} {x : Double} (h : ofInt? n = some x)
    (hn : n.natAbs < twoPower 53) : x.toInt? = some n := by
  obtain ⟨hshort, hsmall, rfl⟩ := eq_finite_of_ofInt? h
  have hround := roundUnits_whole hn
  have hpos := unitsPerOne_pos
  rw [toInt?_finite, hround]
  clear h hshort hsmall hround
  -- Nothing hangs on how many units one has, and its count is too large to compute with.
  generalize unitsPerOne = one at *
  have hmod : n.natAbs * one % one = 0 := Nat.mul_mod_left _ _
  have hdiv : n.natAbs * one / one = n.natAbs := Nat.mul_div_cancel _ hpos
  simp only [hmod, hdiv, if_true, decide_eq_true_eq, Option.some.injEq]
  split <;> omega

theorem natAbs_of_toInt? {n m : Int} {x : Double} (h : ofInt? n = some x)
    (hm : x.toInt? = some m) : n.natAbs ≤ 2 * m.natAbs := by
  obtain ⟨hshort, hsmall, rfl⟩ := eq_finite_of_ofInt? h
  have hround := le_two_mul_roundUnits (n.natAbs * unitsPerOne)
  have hpos := unitsPerOne_pos
  rw [toInt?_finite] at hm
  clear h hshort hsmall
  generalize roundUnits (n.natAbs * unitsPerOne) 1 = units at *
  generalize unitsPerOne = one at *
  split at hm
  · next hwhole =>
    have hunits := Nat.div_mul_cancel (Nat.dvd_of_mod_eq_zero hwhole)
    have hvalue := Option.some.inj hm
    generalize units / one = count at *
    have hcount : count = m.natAbs := by
      split at hvalue <;> omega
    rw [← hunits, hcount, ← Nat.mul_assoc] at hround
    exact Nat.le_of_mul_le_mul_right hround hpos
  · cases hm

end Double

end ServerUi
