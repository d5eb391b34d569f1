/-! Hexadecimal digits of a given count. -/

namespace ServerUi

/-- One hexadecimal digit; `letters` starts with the digit for ten. -/
def hexDigit (letters : Char) (d : Nat) : Char :=
  if d < 10 then Char.ofNat ('0'.toNat + d) else Char.ofNat (letters.toNat + (d - 10))

/-- The lowest `count` hexadecimal digits of a number, highest first. -/
def hexDigits (letters : Char) : Nat → Nat → List Char
  | 0, _ => []
  | count + 1, n => hexDigits letters count (n / 16) ++ [hexDigit letters (n % 16)]

def hexValue? (c : Char) : Option Nat :=
  if '0' ≤ c ∧ c ≤ '9' then some (c.toNat - '0'.toNat)
  else if 'a' ≤ c ∧ c ≤ 'f' then some (c.toNat - 'a'.toNat + 10)
  else if 'A' ≤ c ∧ c ≤ 'F' then some (c.toNat - 'A'.toNat + 10)
  else none

def hexNumber? (cs : List Char) : Option Nat :=
  cs.foldl (fun n c => do return 16 * (← n) + (← hexValue? c)) (some 0)

end ServerUi
