/-! Powers of two and of ten under names of their own, so that large ones stay folded. -/

namespace ServerUi

def twoPower (k : Nat) : Nat := Nat.pow 2 k

def tenPower (k : Nat) : Nat := Nat.pow 10 k

theorem twoPower_pos (k : Nat) : 0 < twoPower k := Nat.two_pow_pos k

theorem tenPower_pos (k : Nat) : 0 < tenPower k := Nat.pow_pos (by decide)

theorem twoPower_add (k l : Nat) : twoPower (k + l) = twoPower k * twoPower l := Nat.pow_add 2 k l

theorem twoPower_le (k l : Nat) (h : k ≤ l) : twoPower k ≤ twoPower l :=
  Nat.pow_le_pow_right (by decide) h

theorem lt_twoPower_log2 (n : Nat) : n < twoPower (n.log2 + 1) := Nat.lt_log2_self

end ServerUi
