import ServerUi.Number.Power

/-! Rounding a fraction of equal units to at most 53 binary digits. Ties go to the even
neighbour, and what comes out is always a short multiple of a power of two. -/

namespace ServerUi

/-- The whole number nearest to `num / den`; a half goes to the even neighbour. -/
def nearest (num den : Nat) : Nat :=
  let below := num / den
  let twice := 2 * (num % den)
  if twice < den then below
  else if den < twice then below + 1
  else below + below % 2

/-- How many binary digits of a quotient do not fit into 53. -/
def excessDigits (quotient : Nat) : Nat := quotient.log2 - 52

/-- The multiple of a power of two nearest to `num / den` whose significand has at most
53 binary digits. -/
def roundUnits (num den : Nat) : Nat :=
  let step := twoPower (excessDigits (num / den))
  nearest num (den * step) * step

/-- A count of units that 53 binary digits and a power of two describe. -/
def Short (units : Nat) : Prop := ∃ m k, m ≤ twoPower 53 ∧ units = m * twoPower k

theorem nearest_le (num den bound : Nat) (h : num / den < bound) : nearest num den ≤ bound := by
  unfold nearest
  dsimp only
  split
  · omega
  · split
    · omega
    · have := Nat.mod_lt (num / den) (by decide : 2 > 0)
      omega

theorem short_zero : Short 0 := ⟨0, 0, Nat.zero_le _, (Nat.zero_mul _).symm⟩

theorem div_excess_lt (quotient : Nat) :
    quotient / twoPower (excessDigits quotient) < twoPower 53 := by
  rw [Nat.div_lt_iff_lt_mul (twoPower_pos _), ← twoPower_add]
  refine Nat.lt_of_lt_of_le (lt_twoPower_log2 quotient) (twoPower_le _ _ ?_)
  unfold excessDigits
  omega

theorem roundUnits_short (num den : Nat) : Short (roundUnits num den) := by
  refine ⟨_, _, nearest_le _ _ _ ?_, rfl⟩
  rw [← Nat.div_div_eq_div_mul]
  exact div_excess_lt _

end ServerUi
