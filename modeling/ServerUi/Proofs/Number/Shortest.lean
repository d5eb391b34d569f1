import ServerUi.Number.Decimal
import ServerUi.Proofs.Number.Stable

/-! The digits of a double denote it: seventeen are enough to be rounded back to the double, and of
fewer digits only those are taken that are. -/

namespace ServerUi

theorem tenPower_add (k l : Nat) : tenPower (k + l) = tenPower k * tenPower l := Nat.pow_add 10 k l

theorem tenPower_le {k l : Nat} (h : k ≤ l) : tenPower k ≤ tenPower l :=
  Nat.pow_le_pow_right (by decide) h

theorem length_toDigits_le {n k : Nat} (hk : 0 < k) (h : n < tenPower k) :
    (Nat.toDigits 10 n).length ≤ k :=
  (Nat.length_toDigits_le_iff (by decide) hk).mpr h

theorem eightfold_le_tenPower (k : Nat) : twoPower (3 * k) ≤ tenPower k :=
  calc twoPower (3 * k) = 8 ^ k := Nat.pow_mul 2 3 k
    _ ≤ 10 ^ k := Nat.pow_le_pow_left (by decide) k

/-- The number `digits * 10 ^ exponent` is rounded to so many units. -/
def Denotes (units digits : Nat) (exponent : Int) : Prop :=
  roundUnits (digits * tenPower exponent.toNat * unitsPerOne) (tenPower (-exponent).toNat) = units

section Denotes

variable {units digits : Nat} {exponent : Int}

/-- Zeros at the end of the digits can be moved to the exponent. -/
theorem denotes_mul_tenPower (zeros : Nat) :
    Denotes units (digits * tenPower zeros) exponent ↔ Denotes units digits (exponent + zeros) := by
  have hexponents : zeros + exponent.toNat + (-(exponent + zeros)).toNat =
      (exponent + zeros).toNat + (-exponent).toNat := by omega
  have hpowers := congrArg tenPower hexponents
  simp only [tenPower_add] at hpowers
  have hcross : digits * tenPower zeros * tenPower exponent.toNat * unitsPerOne *
        tenPower (-(exponent + zeros)).toNat =
      digits * tenPower (exponent + zeros).toNat * unitsPerOne * tenPower (-exponent).toNat := by
    calc _ = digits * unitsPerOne * (tenPower zeros * tenPower exponent.toNat *
          tenPower (-(exponent + zeros)).toNat) := by ring
      _ = _ := by rw [hpowers]; ring
  rw [Denotes, Denotes, roundUnits_congr (tenPower_pos _) (tenPower_pos _) hcross]

theorem Denotes.digits_ne_zero (h : Denotes units digits exponent) (hunits : units ≠ 0) :
    digits ≠ 0 := by
  rintro rfl
  rw [Denotes, Nat.zero_mul, Nat.zero_mul, roundUnits_zero] at h
  exact hunits h.symm

theorem Denotes.exponent_le (h : Denotes units digits exponent) (hunits : units ≠ 0)
    (hsmall : units < unitsLimit) : exponent ≤ 400 := by
  by_contra hlarge
  have hdigits := h.digits_ne_zero hunits
  have hnegative : (-exponent).toNat = 0 := by omega
  rw [Denotes, hnegative] at h
  have hdouble := le_two_mul_roundUnits (digits * tenPower exponent.toNat * unitsPerOne)
  have hround : roundUnits (digits * tenPower exponent.toNat * unitsPerOne) 1 = units := h
  have hlimit : 2 * unitsLimit = twoPower 1025 * unitsPerOne := by
    rw [unitsLimit, unitsPerOne, ← twoPower_succ, ← twoPower_add]
  have hlarge' : twoPower 1025 * unitsPerOne ≤ digits * tenPower exponent.toNat * unitsPerOne := by
    refine Nat.mul_le_mul_right _ ?_
    calc twoPower 1025 ≤ twoPower (3 * 401) := twoPower_le _ _ (by decide)
      _ ≤ tenPower 401 := eightfold_le_tenPower 401
      _ ≤ tenPower exponent.toNat := tenPower_le (by omega)
      _ ≤ digits * tenPower exponent.toNat := Nat.le_mul_of_pos_left _ (by omega)
  omega

theorem Denotes.log2_le (h : Denotes units digits exponent) (hunits : units ≠ 0) :
    -1200 ≤ digits.log2 + 1 + 3 * exponent := by
  by_contra hlow
  obtain ⟨places, rfl⟩ : ∃ places : Nat, exponent = -places := ⟨exponent.natAbs, by omega⟩
  have hzero : (-(places : Int)).toNat = 0 := by omega
  have hplaces : (- -(places : Int)).toNat = places := by omega
  rw [Denotes, hzero, hplaces] at h
  have hone : tenPower 0 = 1 := rfl
  have hunit : twoPower 1075 = 2 * twoPower 1074 := twoPower_succ 1074
  refine hunits (h.symm.trans (roundUnits_of_lt ?_))
  calc 2 * (digits * tenPower 0 * unitsPerOne)
      = digits * twoPower 1075 := by rw [hone, unitsPerOne, hunit]; ring
    _ < twoPower (digits.log2 + 1) * twoPower 1075 :=
        Nat.mul_lt_mul_of_pos_right (lt_twoPower_log2 digits) (twoPower_pos 1075)
    _ = twoPower (digits.log2 + 1 + 1075) := (twoPower_add _ _).symm
    _ ≤ twoPower (3 * places) := twoPower_le _ _ (by omega)
    _ ≤ tenPower places := eightfold_le_tenPower places

/-- What denotes a double is read as the double. -/
theorem Denotes.ofDecimal (h : Denotes units digits exponent) (hunits : units ≠ 0)
    (hshort : Short units) (hsmall : units < unitsLimit) (negative : Bool) :
    Double.ofDecimal negative digits exponent = .finite negative units hshort hsmall := by
  have hdigits := h.digits_ne_zero hunits
  have hhigh := h.exponent_le hunits hsmall
  have hlow := h.log2_le hunits
  have hhigh' : ¬400 < exponent := by omega
  have hlow' : ¬(digits.log2 + 1 + 3 * exponent < -1200) := by omega
  rw [Denotes] at h
  subst h
  have hround : Double.round? negative (digits * tenPower exponent.toNat * unitsPerOne)
      (tenPower (-exponent).toNat) = some (.finite negative _ hshort hsmall) := dif_pos hsmall
  rw [Double.ofDecimal, if_neg hdigits, if_neg hhigh', if_neg hlow']
  dsimp only
  rw [hround, Option.getD_some]

end Denotes

namespace Decimal

theorem readsBack_iff {units n : Nat} {places : Int} :
    readsBack units n places = true ↔ Denotes units n (-places) := by
  rw [readsBack, beq_iff_eq, Denotes, Int.neg_neg]

/-- The decimal is a number on some grid that denotes the units. -/
def Found (units : Nat) (d : Decimal) : Prop :=
  ∃ n places, d = ofScaled n places ∧ Denotes units n (-places)

theorem found_of_onGrid? {units : Nat} {places : Int} {d : Decimal}
    (h : onGrid? units places = some d) : Found units d := by
  unfold onGrid? at h
  dsimp only at h
  by_cases hclosest : readsBack units (nearest (scaled units places).1 (scaled units places).2)
      places = true
  · rw [if_pos hclosest] at h
    exact ⟨_, places, (Option.some.inj h).symm, readsBack_iff.mp hclosest⟩
  · rw [if_neg hclosest] at h
    obtain ⟨hother, hd⟩ := Option.ite_none_right_eq_some.mp h
    exact ⟨_, places, (Option.some.inj hd).symm, readsBack_iff.mp hother⟩

/-- The leading digit is not placed too high. -/
theorem tenPower_le_units {units : Nat} (hunits : units ≠ 0) :
    ∃ length : Nat, leadingExponent units = length - 400 ∧
      tenPower length * unitsPerOne ≤ units * tenPower 400 := by
  have hpos : 0 < (Nat.toDigits 10 (units * tenPower 400 / unitsPerOne)).length :=
    Nat.length_toDigits_pos
  refine ⟨(Nat.toDigits 10 (units * tenPower 400 / unitsPerOne)).length - 1, ?_, ?_⟩
  · rw [leadingExponent]
    omega
  rw [← Nat.le_div_iff_mul_le unitsPerOne_pos]
  have hquotient : 0 < units * tenPower 400 / unitsPerOne := by
    refine Nat.div_pos ?_ unitsPerOne_pos
    calc unitsPerOne ≤ twoPower (3 * 400) := twoPower_le _ _ (by decide)
      _ ≤ tenPower 400 := eightfold_le_tenPower 400
      _ ≤ units * tenPower 400 := Nat.le_mul_of_pos_left _ (by omega)
  generalize units * tenPower 400 / unitsPerOne = n at *
  by_contra hless
  rcases Nat.eq_zero_or_pos ((Nat.toDigits 10 n).length - 1) with hone | hmore
  · rw [hone] at hless
    have hten : tenPower 0 = 1 := rfl
    omega
  · have hshort := (@Nat.length_toDigits_le_iff 10 n _ (by decide) hmore).mpr (Nat.not_le.mp hless)
    omega

/-- The grid with seventeen digits is dense. -/
theorem scaled_dense {units : Nat} (hunits : units ≠ 0) {places : Int}
    (hplaces : places = 16 - leadingExponent units) :
    tenPower 16 * (scaled units places).2 ≤ (scaled units places).1 := by
  obtain ⟨length, hlength, hle⟩ := tenPower_le_units hunits
  have hexponents : 16 + (-places).toNat + 400 = length + places.toNat := by omega
  have hpowers := congrArg tenPower hexponents
  simp only [tenPower_add] at hpowers
  refine Nat.le_of_mul_le_mul_right ?_ (tenPower_pos 400)
  calc tenPower 16 * (unitsPerOne * tenPower (-places).toNat) * tenPower 400
      = unitsPerOne * (tenPower 16 * tenPower (-places).toNat * tenPower 400) := by ring
    _ = tenPower length * unitsPerOne * tenPower places.toNat := by rw [hpowers]; ring
    _ ≤ units * tenPower 400 * tenPower places.toNat := Nat.mul_le_mul_right _ hle
    _ = units * tenPower places.toNat * tenPower 400 := by ring

theorem denotes_nearest {units : Nat} (hunits : units ≠ 0) (hshort : Short units) {places : Int}
    (hplaces : places = 16 - leadingExponent units) :
    Denotes units (nearest (scaled units places).1 (scaled units places).2) (-places) := by
  have hdense := scaled_dense hunits hplaces
  have hden : 0 < (scaled units places).2 := Nat.mul_pos unitsPerOne_pos (tenPower_pos _)
  have herror := @nearest_error (scaled units places).1 _ hden
  have hten : tenPower 16 = 10000000000000000 := by decide
  have hnum : (scaled units places).1 = units * tenPower places.toNat := rfl
  have hscaled (n : Nat) :
      n * tenPower (-places).toNat * unitsPerOne = n * (scaled units places).2 := by
    rw [scaled, Nat.mul_assoc, Nat.mul_comm (tenPower _)]
  rw [hten] at hdense
  rw [Denotes, Int.neg_neg, hscaled]
  rw [hnum] at hdense herror ⊢
  generalize nearest (units * tenPower places.toNat) (scaled units places).2 *
    (scaled units places).2 = num at *
  have hclose : Close num (tenPower places.toNat) units := by
    constructor <;> omega
  exact hclose.roundUnits_eq hshort (tenPower_pos _)

theorem found_shortestFrom {units : Nat} (hunits : units ≠ 0) (hshort : Short units)
    (more digits : Nat) (h : more + digits = 17) :
    Found units (shortestFrom units (leadingExponent units) more digits) := by
  induction more generalizing digits with
  | zero =>
    have hplaces : (digits : Int) - 1 - leadingExponent units = 16 - leadingExponent units := by
      omega
    exact ⟨_, _, rfl, denotes_nearest hunits hshort hplaces⟩
  | succ more ih =>
    rw [shortestFrom]
    cases hgrid : onGrid? units (digits - 1 - leadingExponent units) with
    | some d => exact found_of_onGrid? hgrid
    | none => exact ih (digits + 1) (by omega)

theorem found_shortest {units : Nat} (hunits : units ≠ 0) (hshort : Short units) :
    Found units (shortest units) :=
  found_shortestFrom hunits hshort 16 1 rfl

end Decimal

end ServerUi
