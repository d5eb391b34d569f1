import Mathlib.Data.List.DropRight
import ServerUi.Json.Printer
import ServerUi.Proofs.Json.Grammar
import ServerUi.Proofs.Json.Reading
import ServerUi.Proofs.Number.Shortest

/-! The texts of numbers. Each is a number of the grammar and is read as the number that it was
written for, whichever way a double is laid out. -/

namespace ServerUi.Json

section Digits

theorem digitsValue_eq (ds : List Char) : digitsValue ds = Nat.ofDigitChars 10 ds 0 := rfl

theorem digitsValue_append_zeros (ds : List Char) (k : Nat) :
    digitsValue (ds ++ List.replicate k '0') = digitsValue ds * tenPower k := by
  rw [digitsValue_eq, Nat.ofDigitChars_append, Nat.ofDigitChars_replicate_zero, Nat.mul_comm]
  rfl

theorem digitsValue_zeros_append (k : Nat) (ds : List Char) :
    digitsValue (List.replicate k '0' ++ ds) = digitsValue ds := by
  rw [digitsValue_eq, Nat.ofDigitChars_append, Nat.ofDigitChars_replicate_zero, Nat.mul_zero]
  rfl

theorem digitsValue_toDigits (n : Nat) : digitsValue (Nat.toDigits 10 n) = n :=
  Nat.ofDigitChars_ten_toDigits

theorem isDigit_zero : ∀ d ∈ ['0'], d.isDigit = true := List.forall_mem_singleton.mpr rfl

theorem isDigit_toDigits (n : Nat) : ∀ d ∈ Nat.toDigits 10 n, d.isDigit = true :=
  fun _ => Nat.isDigit_of_mem_toDigits (by decide) (by decide)

theorem head_toDigits {n : Nat} (h : n ≠ 0) : (Nat.toDigits 10 n).head? ≠ some '0' := by
  induction n using Nat.strongRecOn with
  | ind n ih =>
    rw [Nat.toDigits_eq_if (by decide)]
    by_cases hsmall : n < 10
    · have hdigits : ∀ m < 10, m ≠ 0 → [Nat.digitChar m].head? ≠ some '0' := by decide
      rw [if_pos hsmall]
      exact hdigits n hsmall h
    · rw [if_neg hsmall, List.head?_append_of_ne_nil _ Nat.toDigits_ne_nil]
      exact ih (n / 10) (by omega) (by omega)

theorem isWhole_toDigits {n : Nat} (h : n ≠ 0) : IsWhole (Nat.toDigits 10 n) :=
  ⟨Nat.toDigits_ne_nil, isDigit_toDigits n, head_toDigits h⟩

theorem isInt_toDigits (n : Nat) : IsInt (Nat.toDigits 10 n) := by
  by_cases hn : n = 0
  · rw [hn]
    exact .inl rfl
  · exact .inr (isWhole_toDigits hn)

theorem IsInt.digits {ds : List Char} (h : IsInt ds) : ds ≠ [] ∧ ∀ d ∈ ds, d.isDigit = true := by
  rcases h with rfl | hwhole
  · exact ⟨List.cons_ne_nil _ _, isDigit_zero⟩
  · exact ⟨hwhole.ne_nil, hwhole.digits⟩

/-- The digits without the zeros at their end. -/
theorem exists_zeros (n : Nat) : ∃ zeros,
    Nat.toDigits 10 n = Decimal.significant n ++ List.replicate zeros '0' := by
  refine ⟨((Nat.toDigits 10 n).rtakeWhile (· == '0')).length, ?_⟩
  have hzeros : (Nat.toDigits 10 n).rtakeWhile (· == '0') =
      List.replicate ((Nat.toDigits 10 n).rtakeWhile (· == '0')).length '0' := by
    refine List.eq_replicate_iff.mpr ⟨rfl, fun c hc => ?_⟩
    simpa using List.mem_rtakeWhile_imp hc
  have hsplit := @List.rdropWhile_append_rtakeWhile _ (· == '0') (Nat.toDigits 10 n)
  rw [hzeros] at hsplit
  exact hsplit.symm

theorem isWhole_significant {n : Nat} (h : n ≠ 0) : IsWhole (Decimal.significant n) := by
  obtain ⟨zeros, hzeros⟩ := exists_zeros n
  have hwhole := isWhole_toDigits h
  rw [hzeros] at hwhole
  match hds : Decimal.significant n with
  | [] =>
    -- Only zeros would be left, but the first digit is none.
    rw [hds, List.nil_append] at hwhole
    cases zeros with
    | zero => exact absurd rfl hwhole.ne_nil
    | succ zeros => exact absurd rfl hwhole.head
  | d :: rest =>
    rw [hds] at hwhole
    exact ⟨List.cons_ne_nil _ _, fun c hc => hwhole.digits c (List.mem_append_left _ hc),
      hwhole.head⟩

end Digits

section Parts

variable {y : List Char}

theorem readWhole?_int {whole : List Char} (h : IsInt whole) (hy : Undigit y) :
    readWhole? (whole ++ y) = some (whole, y) := by
  rcases h with rfl | hwhole
  · rfl
  · exact readWhole?_append hwhole hy

theorem readFraction?_eq_none (h : ∀ c ∈ y.head?, c ≠ '.') : readFraction? y = none := by
  unfold readFraction?
  split
  · next rest => exact absurd rfl (h '.' rfl)
  · rfl

theorem readFraction?_places {ds : List Char} (h : IsDigits ds) (hy : Undigit y) :
    readFraction? ('.' :: (ds ++ y)) = some (ds, y) := by
  rw [readFraction?, spanDigits_append h.2 hy]
  cases ds with
  | nil => exact absurd rfl h.1
  | cons d rest => rfl

theorem readExponent?_eq_none (h : ∀ c ∈ y.head?, c ≠ 'e' ∧ c ≠ 'E') : readExponent? y = none := by
  unfold readExponent?
  split
  · next e rest => rw [if_neg (not_or.mpr (h e rfl))]
  · rfl

theorem readPower?_digits {value : List Char → Int} {ds : List Char} (h : IsDigits ds)
    (hy : Undigit y) : readPower? value (ds ++ y) = some (value ds, y) := by
  rw [readPower?, spanDigits_append h.2 hy]
  cases ds with
  | nil => exact absurd rfl h.1
  | cons d rest => rfl

end Parts

/-- A power of ten as it is written, with its sign. -/
def powerText : Option (Bool × List Char) → List Char
  | none => []
  | some (negative, ds) => 'e' :: (if negative then '-' else '+') :: ds

def powerValue : Option (Bool × List Char) → Int
  | none => 0
  | some (negative, ds) => if negative then -digitsValue ds else digitsValue ds

/-- The parts of a number with digits behind a point, or with a power. -/
structure Numeral where
  whole : List Char
  places : List Char
  power : Option (Bool × List Char)
  isInt : IsInt whole
  isPlaces : ∀ d ∈ places, d.isDigit = true
  isPower : ∀ p ∈ power, IsDigits p.2
  fractional : places ≠ [] ∨ power ≠ none

namespace Numeral

def text (n : Numeral) : List Char := Decimal.pointed n.whole n.places ++ powerText n.power

def digits (n : Numeral) : Nat := digitsValue (n.whole ++ n.places)

def exponent (n : Numeral) : Int := powerValue n.power - n.places.length

variable (n : Numeral) {y : List Char}

theorem text_eq : n.text =
    n.whole ++ ((if n.places.isEmpty then [] else '.' :: n.places) ++ powerText n.power) := by
  rw [text, Decimal.pointed]
  split
  · rw [List.nil_append]
  · rw [List.append_assoc]

theorem isNumber (negative : Bool) : IsNumber (signed negative n.text) := by
  have hplaces := n.isPlaces
  have hpower := n.isPower
  rw [text_eq, ← List.append_assoc]
  refine .number negative n.isInt ?_ ?_
  · split
    · exact .none
    · next hne => exact .places ⟨by simpa using hne, hplaces⟩
  · cases hp : n.power with
    | none => exact .none
    | some p =>
      have hds := hpower p hp
      obtain ⟨sign, ds⟩ := p
      have hsign : [if sign then '-' else '+'] ∈ [[], ['+'], ['-']] := by
        cases sign <;> simp
      exact .power (.inl rfl) hsign hds

theorem readExponent?_power (hy : Closes y) :
    (readExponent? (powerText n.power ++ y)).map (·.1) =
        n.power.map (fun p => powerValue (some p)) ∧
      behind readExponent? (powerText n.power ++ y) = y := by
  have hpower := n.isPower
  cases hp : n.power with
  | none =>
    have hnone : readExponent? y = none := readExponent?_eq_none fun c hc => (hy c hc).2.2
    rw [powerText, List.nil_append, behind, hnone]
    exact ⟨rfl, rfl⟩
  | some p =>
    have hds := hpower p hp
    obtain ⟨sign, ds⟩ := p
    have hread : readExponent? (powerText (some (sign, ds)) ++ y) =
        some (powerValue (some (sign, ds)), y) := by
      cases sign with
      | true => exact (readExponent?_minus (.inl rfl) _).trans (readPower?_digits hds hy.undigit)
      | false => exact (readExponent?_plus (.inl rfl) _).trans (readPower?_digits hds hy.undigit)
    rw [behind, hread]
    exact ⟨rfl, rfl⟩

theorem undigit_power (hy : Closes y) : ∀ c ∈ (powerText n.power ++ y).head?,
    c.isDigit = false ∧ c ≠ '.' := by
  cases n.power with
  | none => exact fun c hc => ⟨(hy c hc).1, (hy c hc).2.1⟩
  | some p =>
    rintro c ⟨⟩
    decide

/-- The text is read as the double of its digits and its exponent. -/
theorem readNumber (negative : Bool) (hy : Closes y) : readNumber (signed negative n.text ++ y) =
    .ok (.float (.ofDecimal negative n.digits n.exponent), y) := by
  have hpower := n.undigit_power hy
  obtain ⟨hvalue, hend⟩ := n.readExponent?_power hy
  have hhead : negative = false →
      (n.whole ++ ((if n.places.isEmpty then [] else '.' :: n.places) ++ powerText n.power) ++
        y).head? ≠ some '-' := by
    obtain ⟨hne, hdigits⟩ := n.isInt.digits
    intro _
    match hw : n.whole with
    | [] => exact absurd hw hne
    | d :: rest =>
      refine digit_head_ne_minus (hdigits d ?_) _
      rw [hw]
      exact List.mem_cons_self
  rw [← signed_append, text_eq, readNumber_signed hhead, List.append_assoc]
  by_cases hplaces : n.places = []
  · have hfraction : readFraction? (powerText n.power ++ y) = none :=
      readFraction?_eq_none fun c hc => (hpower c hc).2
    obtain ⟨p, hp⟩ :=
      Option.ne_none_iff_exists'.mp (n.fractional.resolve_left (not_not.mpr hplaces))
    rw [hplaces, List.isEmpty_nil, if_pos rfl, List.nil_append,
      readWhole?_int n.isInt fun c hc => (hpower c hc).1]
    dsimp only
    rw [behindParts, behind_eq_self hfraction, hfraction, hvalue, hend, hp, numberOf,
      if_neg (by simp), digits, exponent, hplaces, hp]
    rfl
  · have hempty : n.places.isEmpty = false := by simpa using hplaces
    have hfraction : readFraction? ('.' :: (n.places ++ (powerText n.power ++ y))) =
        some (n.places, powerText n.power ++ y) :=
      readFraction?_places ⟨hplaces, n.isPlaces⟩ fun c hc => (hpower c hc).1
    have hbehind : behind readFraction? ('.' :: (n.places ++ (powerText n.power ++ y))) =
        powerText n.power ++ y := by
      rw [behind, hfraction]
      rfl
    rw [hempty, if_neg Bool.false_ne_true, List.append_assoc, List.cons_append,
      readWhole?_int n.isInt (undigit_cons.mpr (by decide))]
    dsimp only
    rw [behindParts, hbehind, hfraction, hvalue, hend, numberOf, if_neg (by simp), digits, exponent]
    cases n.power <;> rfl

end Numeral

section Layout

variable {d : Decimal}

theorem IsWhole.take {ds : List Char} (h : IsWhole ds) {k : Nat} (hk : k ≠ 0) :
    IsWhole (ds.take k) := by
  match ds, k, h, hk with
  | d :: rest, k + 1, h, _ =>
    exact ⟨List.cons_ne_nil _ _, fun c hc => h.digits c (List.mem_of_mem_take hc), h.head⟩
  | [], _, h, _ => exact absurd rfl h.ne_nil

/-- The numeral has the value of the decimal. -/
def SameNumber (n : Numeral) (d : Decimal) : Prop :=
  ∃ zeros : Nat, n.digits = digitsValue d.digits * tenPower zeros ∧
    n.exponent + zeros = d.exponent + 1 - d.digits.length

/-- The decimal is written as a numeral of its value. -/
def WritesNumeral (d : Decimal) : Prop :=
  ∃ n : Numeral, d.write Double.exactForm = n.text ∧ SameNumber n d

theorem write_fraction (hd : IsWhole d.digits) (hlow : -4 ≤ d.exponent) (hneg : d.exponent < 0) :
    WritesNumeral d := by
  have hrange : Double.exactForm.low ≤ d.exponent ∧ d.exponent < Double.exactForm.high :=
    ⟨hlow, Int.lt_trans hneg (by decide)⟩
  have hne : List.replicate (d.exponent.natAbs - 1) '0' ++ d.digits ≠ [] :=
    List.append_ne_nil_of_right_ne_nil _ hd.ne_nil
  refine ⟨⟨['0'], List.replicate (d.exponent.natAbs - 1) '0' ++ d.digits, none, .inl rfl, ?_, nofun,
    .inl hne⟩, ?_, 0, ?_, ?_⟩
  · intro c hc
    rcases List.mem_append.mp hc with hzero | hdigit
    · rw [(List.mem_replicate.mp hzero).2]
      rfl
    · exact hd.digits c hdigit
  · rw [Decimal.write, if_pos hrange, if_pos hneg, Numeral.text, powerText, List.append_nil]
  · exact (digitsValue_zeros_append (d.exponent.natAbs - 1 + 1) d.digits).trans (Nat.mul_one _).symm
  · simp only [Numeral.exponent, powerValue, List.length_append, List.length_replicate]
    omega

theorem write_whole (hd : IsWhole d.digits) (hpos : 0 ≤ d.exponent) (hhigh : d.exponent < 16) :
    WritesNumeral d := by
  have hrange : Double.exactForm.low ≤ d.exponent ∧ d.exponent < Double.exactForm.high :=
    ⟨Int.le_trans (by decide) hpos, hhigh⟩
  have hwrite : d.write Double.exactForm =
      Decimal.pointed (d.digits.take (d.exponent.natAbs + 1) ++
          List.replicate (d.exponent.natAbs + 1 - d.digits.length) '0')
        (if (d.digits.drop (d.exponent.natAbs + 1)).isEmpty && true then ['0']
          else d.digits.drop (d.exponent.natAbs + 1)) := by
    rw [Decimal.write, if_pos hrange, if_neg (Int.not_lt.mpr hpos)]
    rfl
  rw [Bool.and_true] at hwrite
  by_cases hshort : d.digits.length ≤ d.exponent.natAbs + 1
  · have hback : (d.digits.drop (d.exponent.natAbs + 1)).isEmpty = true := by simpa using hshort
    rw [hback, if_pos rfl, List.take_of_length_le hshort] at hwrite
    refine ⟨⟨d.digits ++ List.replicate (d.exponent.natAbs + 1 - d.digits.length) '0', ['0'], none,
      .inr ⟨?_, ?_, ?_⟩, isDigit_zero, nofun, .inl (by decide)⟩, ?_,
      d.exponent.natAbs + 1 - d.digits.length + 1, ?_, ?_⟩
    · exact List.append_ne_nil_of_left_ne_nil hd.ne_nil _
    · intro c hc
      rcases List.mem_append.mp hc with hdigit | hzero
      · exact hd.digits c hdigit
      · rw [(List.mem_replicate.mp hzero).2]
        rfl
    · rw [List.head?_append_of_ne_nil _ hd.ne_nil]
      exact hd.head
    · rw [hwrite, Numeral.text, powerText, List.append_nil]
    · rw [Numeral.digits, List.append_assoc, ← digitsValue_append_zeros, List.replicate_succ']
    · simp only [Numeral.exponent, powerValue, List.length_singleton]
      omega
  · have hback : (d.digits.drop (d.exponent.natAbs + 1)).isEmpty = false := by
      simpa using Nat.lt_of_not_le hshort
    have hnone : d.exponent.natAbs + 1 - d.digits.length = 0 := by omega
    rw [hback, if_neg Bool.false_ne_true, hnone, List.replicate_zero, List.append_nil] at hwrite
    refine ⟨⟨d.digits.take (d.exponent.natAbs + 1), d.digits.drop (d.exponent.natAbs + 1), none,
      .inr (hd.take (by omega)), fun c hc => hd.digits c (List.mem_of_mem_drop hc), nofun,
      .inl ?_⟩, ?_, 0, ?_, ?_⟩
    · intro hnil
      rw [hnil] at hback
      cases hback
    · rw [hwrite, Numeral.text, powerText, List.append_nil]
    · rw [Numeral.digits, List.take_append_drop]
      exact (Nat.mul_one _).symm
    · simp only [Numeral.exponent, powerValue, List.length_drop]
      omega

theorem write_power (hd : IsWhole d.digits) (hfar : ¬(-4 ≤ d.exponent ∧ d.exponent < 16)) :
    WritesNumeral d := by
  have hfar' : ¬(Double.exactForm.low ≤ d.exponent ∧ d.exponent < Double.exactForm.high) := hfar
  obtain ⟨ds, hds⟩ : ∃ ds, ds = (if (Nat.toDigits 10 d.exponent.natAbs).length < 2
      then '0' :: Nat.toDigits 10 d.exponent.natAbs else Nat.toDigits 10 d.exponent.natAbs) :=
    ⟨_, rfl⟩
  have hdigits : IsDigits ds := by
    have hall := isDigit_toDigits d.exponent.natAbs
    rw [hds]
    split
    · exact ⟨List.cons_ne_nil _ _, List.forall_mem_cons.mpr ⟨rfl, hall⟩⟩
    · exact ⟨Nat.toDigits_ne_nil, hall⟩
  have hvalue : digitsValue ds = d.exponent.natAbs := by
    rw [hds]
    split
    · exact digitsValue_toDigits _
    · exact digitsValue_toDigits _
  refine ⟨⟨d.digits.take 1, d.digits.drop 1, some (decide (d.exponent < 0), ds),
    .inr (hd.take (by decide)), fun c hc => hd.digits c (List.mem_of_mem_drop hc), ?_,
    .inr (by simp)⟩, ?_, 0, ?_, ?_⟩
  · rintro _ ⟨⟩
    exact hdigits
  · rw [Decimal.write, if_neg hfar', Numeral.text, Decimal.exponentText, powerText, ← hds]
    simp only [decide_eq_true_eq]
  · rw [Numeral.digits, List.take_append_drop]
    exact (Nat.mul_one _).symm
  · have hlength : 0 < d.digits.length := List.length_pos_iff.mpr hd.ne_nil
    simp only [Numeral.exponent, powerValue, List.length_drop, hvalue, decide_eq_true_eq]
    split <;> omega

theorem writesNumeral (hd : IsWhole d.digits) : WritesNumeral d := by
  by_cases hfar : -4 ≤ d.exponent ∧ d.exponent < 16
  · by_cases hneg : d.exponent < 0
    · exact write_fraction hd hfar.1 hneg
    · exact write_whole hd (Int.not_lt.mp hneg) hfar.2
  · exact write_power hd hfar

end Layout

section Doubles

variable {units : Nat}

/-- What is found for a double is written as a numeral that is read as the double. -/
theorem numeral_of_found {d : Decimal} (h : Decimal.Found units d) (hunits : units ≠ 0)
    (hshort : Short units) (hsmall : units < unitsLimit) :
    ∃ n : Numeral, d.write Double.exactForm = n.text ∧ ∀ negative,
      Double.ofDecimal negative n.digits n.exponent = .finite negative units hshort hsmall := by
  obtain ⟨m, places, rfl, hdenotes⟩ := h
  have hm := hdenotes.digits_ne_zero hunits
  obtain ⟨zeros, hzeros⟩ := exists_zeros m
  have hlength := congrArg List.length hzeros
  rw [List.length_append, List.length_replicate] at hlength
  obtain ⟨n, htext, more, hdigits, hexponent⟩ :=
    @writesNumeral (Decimal.ofScaled m places) (isWhole_significant hm)
  refine ⟨n, htext, fun negative => Denotes.ofDecimal ?_ hunits hshort hsmall negative⟩
  have hvalue : m = digitsValue (Decimal.significant m) * tenPower zeros := by
    rw [← digitsValue_append_zeros, ← hzeros, digitsValue_toDigits]
  have hplace : n.exponent + more = -places + zeros := by
    rw [hexponent]
    dsimp only [Decimal.ofScaled]
    omega
  rw [hdigits, denotes_mul_tenPower, hplace, ← denotes_mul_tenPower]
  dsimp only [Decimal.ofScaled]
  rwa [← hvalue]

end Doubles

/-- The text is a number of the grammar and is read as the value, up to what closes a number. -/
structure WritesNumber (w : List Char) (v : Json) : Prop where
  isNumber : IsNumber w
  reads : ∀ (fuel : Nat) {y : List Char}, Closes y → readValue (fuel + 1) (w ++ y) = .ok (v, y)

section Written

theorem readValue_signed {w y : List Char} (hw : ∀ d ∈ w.head?, d.isDigit = true) (hne : w ≠ [])
    (negative : Bool) (fuel : Nat) :
    readValue (fuel + 1) (signed negative w ++ y) = readNumber (signed negative w ++ y) := by
  cases w with
  | nil => exact absurd rfl hne
  | cons d rest =>
    rw [← signed_append, List.cons_append]
    exact readValue_number (hw d rfl) negative _

theorem Numeral.head_text (n : Numeral) : n.text ≠ [] ∧ ∀ d ∈ n.text.head?, d.isDigit = true := by
  obtain ⟨hne, hdigits⟩ := n.isInt.digits
  rw [text_eq]
  refine ⟨List.append_ne_nil_of_left_ne_nil hne _, fun d hd => ?_⟩
  rw [List.head?_append_of_ne_nil _ hne] at hd
  exact hdigits d (List.mem_of_mem_head? hd)

theorem Numeral.writesNumber (n : Numeral) (negative : Bool) :
    WritesNumber (signed negative n.text) (.float (.ofDecimal negative n.digits n.exponent)) where
  isNumber := n.isNumber negative
  reads := fun fuel _ hy => by
    rw [readValue_signed n.head_text.2 n.head_text.1, n.readNumber negative hy]

theorem floatText_finite (negative : Bool) {units : Nat} (hshort : Short units)
    (hsmall : units < unitsLimit) :
    floatText (.finite negative units hshort hsmall) = signed negative
      (if units = 0 then ['0', '.', '0'] else (Decimal.shortest units).write Double.exactForm) :=
  String.toList_ofList

/-- A finite double is written as a number that is read as the same double. -/
theorem writesNumber_finite (negative : Bool) {units : Nat} (hshort : Short units)
    (hsmall : units < unitsLimit) :
    WritesNumber (floatText (.finite negative units hshort hsmall))
      (.float (.finite negative units hshort hsmall)) := by
  rw [floatText_finite]
  by_cases hunits : units = 0
  · subst hunits
    exact Numeral.writesNumber
      ⟨['0'], ['0'], none, .inl rfl, isDigit_zero, nofun, .inl (by decide)⟩ negative
  · obtain ⟨n, htext, hread⟩ :=
      numeral_of_found (Decimal.found_shortest hunits hshort) hunits hshort hsmall
    rw [if_neg hunits, htext, ← hread negative]
    exact n.writesNumber negative

theorem toString_int (n : Int) :
    (toString n).toList = signed (decide (n < 0)) (Nat.toDigits 10 n.natAbs) := by
  cases n with
  | ofNat n => exact Nat.toList_repr
  | negSucc n =>
    have hminus : (toString (Int.negSucc n)).toList = '-' :: (n + 1).repr.toList := by
      change ("-" ++ (n + 1).repr).toList = _
      rw [String.toList_append]
      rfl
    have hnegative : Int.negSucc n < 0 := Int.negSucc_lt_zero n
    rw [hminus, Nat.toList_repr, decide_eq_true hnegative]
    rfl

/-- A whole number is read back unless it has too many digits. -/
theorem writesNumber_int {n : Int} (h : n.natAbs < tenPower integerDigitLimit) :
    WritesNumber (toString n).toList (.int n) := by
  have hint := isInt_toDigits n.natAbs
  have hhead : ∀ d ∈ (Nat.toDigits 10 n.natAbs).head?, d.isDigit = true :=
    fun d hd => hint.digits.2 d (List.mem_of_mem_head? hd)
  have hlength : ¬integerDigitLimit < (Nat.toDigits 10 n.natAbs).length :=
    Nat.not_lt.mpr (length_toDigits_le (by decide) h)
  have hminus (y : List Char) : (Nat.toDigits 10 n.natAbs ++ y).head? ≠ some '-' := by
    rw [List.head?_append_of_ne_nil _ hint.digits.1]
    intro hfirst
    cases hhead '-' hfirst
  have hvalue : (if decide (n < 0) then -(digitsValue (Nat.toDigits 10 n.natAbs) : Int)
      else digitsValue (Nat.toDigits 10 n.natAbs)) = n := by
    rw [digitsValue_toDigits]
    simp only [decide_eq_true_eq]
    split <;> omega
  rw [toString_int]
  constructor
  · have hnumber := IsNumber.number (decide (n < 0)) hint .none .none
    rwa [List.append_nil, List.append_nil] at hnumber
  · intro fuel y hy
    have hfraction : readFraction? y = none := readFraction?_eq_none fun c hc => (hy c hc).2.1
    have hpower : readExponent? y = none := readExponent?_eq_none fun c hc => (hy c hc).2.2
    rw [readValue_signed hhead hint.digits.1, ← signed_append, readNumber_signed fun _ => hminus y,
      readWhole?_int hint hy.undigit]
    dsimp only
    rw [behindParts, behind_eq_self hfraction, behind_eq_self hpower, hfraction, hpower, numberOf,
      if_pos (by rfl), if_neg hlength, hvalue]
    rfl

end Written

end ServerUi.Json
