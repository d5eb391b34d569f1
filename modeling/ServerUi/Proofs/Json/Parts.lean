import Mathlib.Tactic.Common
import ServerUi.Json.Reader
import ServerUi.Proofs.Except

/-! What the readers of blanks, numbers, strings and words take off a text. They take the same off every
text that starts so and goes on with something that cannot belong to a number. -/

namespace ServerUi.Json

/-- A number that stands in front of the text does not go on in it. -/
def Closes (y : List Char) : Prop := ∀ c ∈ y.head?, c.isDigit = false ∧ c ≠ '.' ∧ c ≠ 'e' ∧ c ≠ 'E'

@[simp] theorem closes_cons {c : Char} {y : List Char} :
    Closes (c :: y) ↔ c.isDigit = false ∧ c ≠ '.' ∧ c ≠ 'e' ∧ c ≠ 'E' := by
  simp [Closes]

section Blanks

theorem length_skipBlanks_le (cs : List Char) : (skipBlanks cs).length ≤ cs.length :=
  (List.dropWhile_sublist _).length_le

theorem exists_blanks (cs : List Char) :
    ∃ blanks, (∀ c ∈ blanks, isBlank c = true) ∧ cs = blanks ++ skipBlanks cs :=
  ⟨cs.takeWhile isBlank, List.all_eq_true.mp List.all_takeWhile,
    List.takeWhile_append_dropWhile.symm⟩

theorem skipBlanks_append {blanks cs : List Char} (h : ∀ c ∈ blanks, isBlank c = true)
    (hcs : ∀ c ∈ cs.head?, isBlank c = false) : skipBlanks (blanks ++ cs) = cs := by
  rw [skipBlanks, List.dropWhile_append_of_pos h]
  cases cs with
  | nil => rfl
  | cons c rest =>
    have hc : isBlank c = false := hcs c rfl
    exact List.dropWhile_cons_of_neg (by rw [hc]; exact Bool.false_ne_true)

theorem skipBlanks_append_cons {blanks : List Char} (h : ∀ c ∈ blanks, isBlank c = true) {c : Char}
    (hc : isBlank c = false) (rest : List Char) : skipBlanks (blanks ++ c :: rest) = c :: rest :=
  skipBlanks_append h (by rintro _ ⟨⟩; exact hc)

theorem head_skipBlanks (cs : List Char) : ∀ c ∈ (skipBlanks cs).head?, isBlank c = false := by
  intro c hc
  have hdrop := List.head?_dropWhile_not isBlank cs
  rw [skipBlanks] at hc
  rw [Option.mem_def.mp hc] at hdrop
  simpa using hdrop

theorem exists_blanks_cons {c : Char} {cs y : List Char} (h : skipBlanks cs = c :: y) :
    ∃ blanks, (∀ b ∈ blanks, isBlank b = true) ∧ isBlank c = false ∧ cs = blanks ++ c :: y := by
  obtain ⟨blanks, hblanks, hcs⟩ := exists_blanks cs
  rw [h] at hcs
  exact ⟨blanks, hblanks, head_skipBlanks cs c (by rw [h]; rfl), hcs⟩

theorem closes_of_blank {c : Char} (h : isBlank c = true) (y : List Char) : Closes (c :: y) := by
  simp only [isBlank, Bool.or_eq_true, beq_iff_eq, or_assoc] at h
  rcases h with rfl | rfl | rfl | rfl <;> simp

theorem closes_blanks {blanks : List Char} (h : ∀ c ∈ blanks, isBlank c = true) {y : List Char}
    (hy : Closes y) : Closes (blanks ++ y) := by
  cases blanks with
  | nil => exact hy
  | cons c rest => exact closes_of_blank (h c List.mem_cons_self) _

end Blanks

section Numbers

/-- The text does not start with a digit. -/
def Undigit (y : List Char) : Prop := ∀ c ∈ y.head?, c.isDigit = false

theorem Closes.undigit {y : List Char} (h : Closes y) : Undigit y := fun c hc => (h c hc).1

theorem undigit_cons {c : Char} {y : List Char} : Undigit (c :: y) ↔ c.isDigit = false := by
  simp [Undigit]

theorem spanDigits_append {ds y : List Char} (hds : ∀ d ∈ ds, d.isDigit = true)
    (hy : Undigit y) : spanDigits (ds ++ y) = (ds, y) := by
  rw [spanDigits, List.takeWhile_append_of_pos hds, List.dropWhile_append_of_pos hds]
  cases y with
  | nil => simp
  | cons c rest =>
    have hc : ¬ c.isDigit = true := by
      rw [undigit_cons.mp hy]
      exact Bool.false_ne_true
    rw [List.takeWhile_cons_of_neg hc, List.dropWhile_cons_of_neg hc, List.append_nil]

theorem spanDigits_eq {cs ds rest : List Char} (h : spanDigits cs = (ds, rest)) :
    cs = ds ++ rest ∧ ∀ d ∈ ds, d.isDigit = true := by
  obtain ⟨rfl, rfl⟩ := Prod.mk.inj h
  exact ⟨List.takeWhile_append_dropWhile.symm, List.all_eq_true.mp List.all_takeWhile⟩

theorem undigit_dropWhile (cs : List Char) : Undigit (cs.dropWhile Char.isDigit) := by
  intro c hc
  have hdrop := List.head?_dropWhile_not Char.isDigit cs
  rw [Option.mem_def.mp hc] at hdrop
  simpa using hdrop

/-- Digits that may stand in front of a point. -/
structure IsWhole (ds : List Char) : Prop where
  ne_nil : ds ≠ []
  digits : ∀ d ∈ ds, d.isDigit = true
  head : ds.head? ≠ some '0'

theorem readWhole?_append {ds y : List Char} (hds : IsWhole ds) (hy : Undigit y) :
    readWhole? (ds ++ y) = some (ds, y) := by
  match ds with
  | [] => exact absurd rfl hds.ne_nil
  | d :: ds =>
    rw [List.cons_append]
    unfold readWhole?
    split
    · next heq =>
      obtain ⟨rfl, -⟩ := List.cons.inj heq
      exact absurd rfl hds.head
    · next heq =>
      obtain ⟨rfl, rfl⟩ := List.cons.inj heq
      rw [if_pos (hds.digits d List.mem_cons_self), ← List.cons_append,
        spanDigits_append hds.digits hy]
    · next heq => cases heq

theorem readWhole?_cases {cs whole rest : List Char} (h : readWhole? cs = some (whole, rest)) :
    cs = whole ++ rest ∧ (whole = ['0'] ∨ IsWhole whole ∧ Undigit rest) := by
  unfold readWhole? at h
  split at h
  · cases h
    exact ⟨rfl, .inl rfl⟩
  · next c behind hzero =>
    split at h
    · next hc =>
      obtain ⟨rfl, rfl⟩ := Prod.mk.inj (Option.some.inj h)
      refine ⟨List.takeWhile_append_dropWhile.symm, .inr ⟨?_, undigit_dropWhile _⟩⟩
      rw [List.takeWhile_cons_of_pos hc]
      refine ⟨List.cons_ne_nil _ _, ?_, ?_⟩
      · rw [← List.takeWhile_cons_of_pos hc]
        exact List.all_eq_true.mp List.all_takeWhile
      · intro hhead
        exact hzero (Option.some.inj hhead)
    · cases h
  · cases h

/-- The digits in front of the point are the same whatever goes on behind them. -/
theorem readWhole?_takes {cs whole rest : List Char} (h : readWhole? cs = some (whole, rest)) :
    (∃ d ds, whole = d :: ds ∧ d.isDigit = true) ∧
      ∀ y, Undigit y → readWhole? (whole ++ y) = some (whole, y) := by
  obtain ⟨-, rfl | ⟨hwhole, -⟩⟩ := readWhole?_cases h
  · exact ⟨⟨'0', [], rfl, rfl⟩, fun y _ => rfl⟩
  · refine ⟨?_, fun y hy => readWhole?_append hwhole hy⟩
    match whole, hwhole with
    | [], hwhole => exact absurd rfl hwhole.ne_nil
    | d :: ds, hwhole => exact ⟨d, ds, rfl, hwhole.digits d List.mem_cons_self⟩

/-- The text behind an optional part of a number. -/
def behind (R : List Char → Option (α × List Char)) (cs : List Char) : List Char :=
  ((R cs).map (·.2)).getD cs

theorem behind_eq_self {R : List Char → Option (α × List Char)} {cs : List Char}
    (h : R cs = none) : behind R cs = cs := by
  rw [behind, h]
  rfl

/-- A reader of an optional part that starts with some character takes the same part off every text
that goes on with no digit and with no such character. -/
def TakesPart (R : List Char → Option (α × List Char)) (starts : List Char) : Prop :=
  ∀ cs, ∃ w, cs = w ++ behind R cs ∧ (∀ c ∈ w.head?, c ∈ starts) ∧
    ∀ y, Undigit y → (∀ c ∈ y.head?, c ∉ starts) →
      (R (w ++ y)).map (·.1) = (R cs).map (·.1) ∧ behind R (w ++ y) = y

theorem TakesPart.of_some {R : List Char → Option (α × List Char)} {starts : List Char}
    (hnone : ∀ y : List Char, (∀ c ∈ y.head?, c ∉ starts) → R y = none)
    (hsome : ∀ cs a rest, R cs = some (a, rest) → ∃ w, cs = w ++ rest ∧
      (∀ c ∈ w.head?, c ∈ starts) ∧ ∀ y, Undigit y → R (w ++ y) = some (a, y)) :
    TakesPart R starts := by
  intro cs
  cases h : R cs with
  | none =>
    refine ⟨[], by rw [behind, h]; rfl, nofun, fun y _ hy => ?_⟩
    rw [List.nil_append, behind, hnone y hy]
    exact ⟨rfl, rfl⟩
  | some found =>
    obtain ⟨a, rest⟩ := found
    obtain ⟨w, hcs, hw, htakes⟩ := hsome cs a rest h
    refine ⟨w, by rw [behind, h]; exact hcs, hw, fun y hy _ => ?_⟩
    rw [behind, htakes y hy]
    exact ⟨rfl, rfl⟩

theorem readFraction?_takes : TakesPart readFraction? ['.'] := by
  apply TakesPart.of_some
  · intro y hy
    unfold readFraction?
    split
    · next rest => exact absurd List.mem_cons_self (hy '.' rfl)
    · rfl
  · intro cs ds rest h
    unfold readFraction? at h
    split at h
    · next behind =>
      split at h
      · cases h
      · next hne =>
        obtain ⟨rfl, hds⟩ := spanDigits_eq (Option.some.inj h)
        refine ⟨'.' :: ds, rfl, by simp, fun y hy => ?_⟩
        rw [List.cons_append, readFraction?, spanDigits_append hds hy]
        cases ds with
        | nil => exact absurd (Option.some.inj h) (hne rest)
        | cons d more => rfl
    · cases h

/-- The digits of a power, of which there is one at least. -/
def readPower? (value : List Char → Int) (cs : List Char) : Option (Int × List Char) :=
  match spanDigits cs with
  | ([], _) => none
  | (found, rest) => some (value found, rest)

theorem readPower?_takes {value : List Char → Int} {cs rest : List Char} {power : Int}
    (h : readPower? value cs = some (power, rest)) :
    ∃ d ds, cs = d :: ds ++ rest ∧ d.isDigit = true ∧
      ∀ y, Undigit y → readPower? value (d :: ds ++ y) = some (power, y) := by
  unfold readPower? at h
  split at h
  · cases h
  · next found rest' hne hspan =>
    obtain ⟨rfl, rfl⟩ := Prod.mk.inj (Option.some.inj h)
    obtain ⟨hcs, hds⟩ := spanDigits_eq hspan
    cases found with
    | nil => exact absurd rfl hne
    | cons d ds =>
      refine ⟨d, ds, hcs, hds d List.mem_cons_self, fun y hy => ?_⟩
      rw [readPower?, spanDigits_append hds hy]

theorem readExponent?_minus {e : Char} (he : e = 'e' ∨ e = 'E') (cs : List Char) :
    readExponent? (e :: '-' :: cs) = readPower? (fun ds => -(digitsValue ds : Int)) cs := by
  rw [readExponent?, if_pos he]
  rfl

theorem readExponent?_plus {e : Char} (he : e = 'e' ∨ e = 'E') (cs : List Char) :
    readExponent? (e :: '+' :: cs) = readPower? (fun ds => digitsValue ds) cs := by
  rw [readExponent?, if_pos he]
  rfl

theorem readExponent?_unsigned {e : Char} (he : e = 'e' ∨ e = 'E') {cs : List Char}
    (hcs : ∀ c ∈ cs.head?, c ≠ '-' ∧ c ≠ '+') :
    readExponent? (e :: cs) = readPower? (fun ds => digitsValue ds) cs := by
  rw [readExponent?, if_pos he]
  case x_1 =>
    rintro ds rfl
    exact (hcs '-' rfl).1 rfl
  case x_2 =>
    rintro ds rfl
    exact (hcs '+' rfl).2 rfl
  rfl

theorem readExponent?_takes : TakesPart readExponent? ['e', 'E'] := by
  apply TakesPart.of_some
  · intro y hy
    unfold readExponent?
    split
    · next e rest =>
      have he := hy e rfl
      rw [if_neg (by simpa using he)]
    · rfl
  · intro cs power rest h
    match cs with
    | [] => cases h
    | e :: cs =>
      have he : e = 'e' ∨ e = 'E' := by
        by_contra he
        unfold readExponent? at h
        dsimp only at h
        rw [if_neg he] at h
        cases h
      have hhead : ∀ w, ∀ c ∈ (e :: w).head?, c ∈ ['e', 'E'] := by
        rintro w c ⟨⟩
        simpa using he
      by_cases hsign : ∀ c ∈ cs.head?, c ≠ '-' ∧ c ≠ '+'
      · rw [readExponent?_unsigned he hsign] at h
        obtain ⟨d, ds, rfl, hd, htakes⟩ := readPower?_takes h
        refine ⟨e :: d :: ds, rfl, hhead _, fun y hy => ?_⟩
        have hunsigned : ∀ c ∈ (d :: ds ++ y).head?, c ≠ '-' ∧ c ≠ '+' := by
          rintro c ⟨⟩
          exact ⟨by rintro rfl; simp at hd, by rintro rfl; simp at hd⟩
        exact (readExponent?_unsigned he hunsigned).trans (htakes y hy)
      · match cs with
        | [] => exact absurd nofun hsign
        | c :: cs =>
          have hc : c = '-' ∨ c = '+' := by
            by_contra hc
            exact hsign (by rintro _ ⟨⟩; exact not_or.mp hc)
          rcases hc with rfl | rfl
          · rw [readExponent?_minus he] at h
            obtain ⟨d, ds, rfl, -, htakes⟩ := readPower?_takes h
            refine ⟨e :: '-' :: d :: ds, rfl, hhead _, fun y hy => ?_⟩
            exact (readExponent?_minus he _).trans (htakes y hy)
          · rw [readExponent?_plus he] at h
            obtain ⟨d, ds, rfl, -, htakes⟩ := readPower?_takes h
            refine ⟨e :: '+' :: d :: ds, rfl, hhead _, fun y hy => ?_⟩
            exact (readExponent?_plus he _).trans (htakes y hy)

/-- A number with its sign in front. -/
def signed (negative : Bool) (body : List Char) : List Char :=
  if negative then '-' :: body else body

theorem signed_append (negative : Bool) (w y : List Char) :
    signed negative (w ++ y) = signed negative w ++ y := by
  cases negative <;> rfl

theorem exists_signed (cs : List Char) :
    ∃ negative body, cs = signed negative body ∧ (negative = false → body.head? ≠ some '-') := by
  match cs with
  | [] => exact ⟨false, [], rfl, fun _ => nofun⟩
  | c :: rest =>
    by_cases hc : c = '-'
    · exact ⟨true, rest, by rw [hc]; rfl, nofun⟩
    · exact ⟨false, c :: rest, rfl, fun _ h => hc (Option.some.inj h)⟩

/-- The number of the digits in front of the point, those behind it, and the power. -/
def numberOf (negative : Bool) (left : Nat) (whole : List Char) (places : Option (List Char))
    (power : Option Int) : Except Located Json :=
  if places.isNone && power.isNone then
    if integerDigitLimit < whole.length then .error (.longInteger whole.length, left)
    else .ok (.int (if negative then -(digitsValue whole : Int) else digitsValue whole))
  else
    .ok (.float (.ofDecimal negative (digitsValue (whole ++ places.getD []))
      (power.getD 0 - (places.getD []).length)))

theorem numberOf_ok {negative : Bool} {left : Nat} {whole : List Char}
    {places : Option (List Char)} {power : Option Int} {n : Json}
    (h : numberOf negative left whole places power = .ok n) (left' : Nat) :
    numberOf negative left' whole places power = .ok n := by
  unfold numberOf at h ⊢
  split at h
  · next hnone =>
    rw [if_pos hnone]
    split at h
    · cases h
    · next hshort => rw [if_neg hshort, h]
  · next hsome => rw [if_neg hsome, h]

theorem numberOf_error {negative : Bool} {left : Nat} {whole : List Char}
    {places : Option (List Char)} {power : Option Int} {e : Located}
    (h : numberOf negative left whole places power = .error e) :
    places = none ∧ power = none ∧ integerDigitLimit < whole.length ∧
      e = (.longInteger whole.length, left) := by
  unfold numberOf at h
  split at h
  · next hnone =>
    obtain ⟨hplaces, hpower⟩ := Bool.and_eq_true_iff.mp hnone
    split at h
    · next hlong =>
      exact ⟨Option.isNone_iff_eq_none.mp hplaces, Option.isNone_iff_eq_none.mp hpower, hlong,
        (Except.error.inj h).symm⟩
    · cases h
  · cases h

/-- The text behind the digits, the fraction and the power that stand in front of it. -/
def behindParts (cs : List Char) : List Char := behind readExponent? (behind readFraction? cs)

theorem numberOf_pair {negative : Bool} {left : Nat} {whole rest : List Char}
    {fraction : Option (List Char × List Char)} {exponent : Option (Int × List Char)} :
    (if fraction.isNone && exponent.isNone then
      if integerDigitLimit < whole.length then .error (.longInteger whole.length, left)
      else
        let n : Int := digitsValue whole
        .ok (.int (if negative then -n else n), rest)
    else
      let places := (fraction.map (·.1)).getD []
      let power := (exponent.map (·.1)).getD 0
      .ok (.float (.ofDecimal negative (digitsValue (whole ++ places)) (power - places.length)),
        (exponent.map (·.2)).getD ((fraction.map (·.2)).getD rest))) =
    (numberOf negative left whole (fraction.map (·.1)) (exponent.map (·.1))).map
      (·, (exponent.map (·.2)).getD ((fraction.map (·.2)).getD rest)) := by
  rw [numberOf, Option.isNone_map, Option.isNone_map]
  split
  · next hnone =>
    obtain ⟨hf, he⟩ := Bool.and_eq_true_iff.mp hnone
    rw [Option.isNone_iff_eq_none.mp hf, Option.isNone_iff_eq_none.mp he]
    split <;> rfl
  · rfl

theorem readNumber_signed {negative : Bool} {body : List Char}
    (h : negative = false → body.head? ≠ some '-') :
    readNumber (signed negative body) =
      match readWhole? body with
      | none => .error (.value, (signed negative body).length)
      | some (whole, rest) =>
        (numberOf negative (signed negative body).length whole ((readFraction? rest).map (·.1))
          ((readExponent? (behind readFraction? rest)).map (·.1))).map (·, behindParts rest) := by
  unfold readNumber
  split
  next negative' body' hbody =>
  -- The sign is taken off a signed body, and from no other.
  have hsign : (negative', body') = (negative, body) := by
    rw [← hbody]
    split
    · next rest hrest =>
      cases negative with
      | true => cases hrest; rfl
      | false =>
        rw [signed, if_neg Bool.false_ne_true] at hrest
        exact absurd (congrArg List.head? hrest) (h rfl)
    · next hne =>
      cases negative with
      | true => exact absurd rfl (hne body)
      | false => rfl
  obtain ⟨rfl, rfl⟩ := Prod.mk.inj hsign
  cases readWhole? body' with
  | none => rfl
  | some found => exact numberOf_pair

theorem head_append {P : Char → Prop} {w y : List Char} (hw : ∀ c ∈ w.head?, P c)
    (hy : ∀ c ∈ y.head?, P c) : ∀ c ∈ (w ++ y).head?, P c := by
  cases w with
  | nil => exact hy
  | cons _ _ => exact hw

theorem behindParts_takes (cs : List Char) : ∃ w, cs = w ++ behindParts cs ∧
    ∀ y, Closes y → Undigit (w ++ y) ∧ behindParts (w ++ y) = y ∧
      (readFraction? (w ++ y)).map (·.1) = (readFraction? cs).map (·.1) ∧
      (readExponent? (behind readFraction? (w ++ y))).map (·.1) =
        (readExponent? (behind readFraction? cs)).map (·.1) := by
  obtain ⟨fraction, hcs, hfraction, htakesF⟩ := readFraction?_takes cs
  obtain ⟨power, hbehind, hpower, htakesE⟩ := readExponent?_takes (behind readFraction? cs)
  refine ⟨fraction ++ power, ?_, fun y hy => ?_⟩
  · rw [List.append_assoc, behindParts, ← hbehind]
    exact hcs
  have hy' : ∀ c ∈ (power ++ y).head?, c.isDigit = false ∧ c ∉ ['.'] := by
    refine head_append (fun c hc => ?_) fun c hc => ?_
    · have := hpower c hc
      simp only [List.mem_cons, List.not_mem_nil, or_false] at this
      rcases this with rfl | rfl <;> decide
    · simpa using ⟨(hy c hc).1, (hy c hc).2.1⟩
  obtain ⟨hplaces, hrest⟩ := htakesF (power ++ y) (fun c hc => (hy' c hc).1)
    fun c hc => (hy' c hc).2
  obtain ⟨hexp, hend⟩ := htakesE y hy.undigit fun c hc => by simpa using (hy c hc).2.2
  rw [List.append_assoc, behindParts, hrest]
  refine ⟨head_append (fun c hc => ?_) fun c hc => (hy' c hc).1, hend, hplaces, hexp⟩
  rw [List.mem_singleton.mp (hfraction c hc)]
  rfl

theorem digit_head_ne_minus {d : Char} (hd : d.isDigit = true) (ds : List Char) :
    (d :: ds).head? ≠ some '-' := by
  rintro ⟨⟩
  cases hd

theorem readNumber_takes {cs rest : List Char} {v : Json} (h : readNumber cs = .ok (v, rest)) :
    ∃ negative d ds, d.isDigit = true ∧ cs = signed negative (d :: ds) ++ rest ∧
      ∀ y, Closes y → readNumber (signed negative (d :: ds) ++ y) = .ok (v, y) := by
  obtain ⟨negative, body, rfl, hbody⟩ := exists_signed cs
  rw [readNumber_signed hbody] at h
  split at h
  · cases h
  next whole back hwhole =>
  obtain ⟨rfl, -⟩ := readWhole?_cases hwhole
  obtain ⟨⟨d, ds, rfl, hd⟩, htakes⟩ := readWhole?_takes hwhole
  obtain ⟨w, hback, hparts⟩ := behindParts_takes back
  generalize hnumber : numberOf _ _ _ _ _ = number at h
  cases number with
  | error e => cases h
  | ok n =>
    obtain ⟨rfl, rfl⟩ := Prod.mk.inj (Except.ok.inj h)
    refine ⟨negative, d, ds ++ w, hd, ?_, fun y hy => ?_⟩
    · rw [← signed_append, ← List.cons_append, List.append_assoc, ← hback]
    · obtain ⟨hund, hend, hplaces, hpower⟩ := hparts y hy
      rw [← signed_append, ← List.cons_append, List.append_assoc,
        readNumber_signed (by intro _; exact digit_head_ne_minus hd _), htakes _ hund]
      dsimp only
      rw [hplaces, hpower, hend, numberOf_ok hnumber]
      rfl

/-- A whole number of so many digits stands in front of the text. -/
def WholeAhead (digits : Nat) (cs : List Char) : Prop :=
  ∃ negative whole back, cs = signed negative (whole ++ back) ∧ IsWhole whole ∧
    whole.length = digits ∧ Undigit back ∧ readFraction? back = none ∧ readExponent? back = none

theorem WholeAhead.readNumber {digits : Nat} {cs : List Char} (h : WholeAhead digits cs)
    (hlong : integerDigitLimit < digits) :
    readNumber cs = .error (.longInteger digits, cs.length) := by
  obtain ⟨negative, whole, back, rfl, hwhole, rfl, hback, hfraction, hpower⟩ := h
  have hhead : (whole ++ back).head? ≠ some '-' := by
    match whole, hwhole with
    | [], hwhole => exact absurd rfl hwhole.ne_nil
    | d :: ds, hwhole => exact digit_head_ne_minus (hwhole.digits d List.mem_cons_self) _
  rw [readNumber_signed fun _ => hhead, readWhole?_append hwhole hback]
  dsimp only
  rw [behind_eq_self hfraction, hfraction, hpower, numberOf, if_pos (by rfl), if_pos hlong]
  rfl

theorem readNumber_error {cs : List Char} {flaw : JsonFlaw} {left : Nat}
    (h : Json.readNumber cs = .error (flaw, left)) :
    left = cs.length ∧ (flaw = .value ∨
      ∃ digits, flaw = .longInteger digits ∧ integerDigitLimit < digits ∧
        WholeAhead digits cs) := by
  obtain ⟨negative, body, rfl, hbody⟩ := exists_signed cs
  rw [readNumber_signed hbody] at h
  split at h
  · cases h
    exact ⟨rfl, .inl rfl⟩
  next whole back hwhole =>
  generalize hnumber : numberOf _ _ _ _ _ = number at h
  cases number with
  | ok n => cases h
  | error e =>
    obtain ⟨hfraction, hpower, hlong, rfl⟩ := numberOf_error hnumber
    obtain ⟨rfl, rfl⟩ := Prod.mk.inj (Except.error.inj h)
    have hfraction := Option.map_eq_none_iff.mp hfraction
    rw [behind_eq_self hfraction] at hpower
    refine ⟨rfl, .inr ⟨_, rfl, hlong, ?_⟩⟩
    obtain ⟨rfl, rfl | ⟨hwhole, hback⟩⟩ := readWhole?_cases hwhole
    · exact absurd hlong (by decide)
    · exact ⟨negative, whole, back, rfl, hwhole, rfl, hback, hfraction,
        Option.map_eq_none_iff.mp hpower⟩

end Numbers

section Strings

theorem readPieces_escape {c e : Char} (he : unescaped? c = some e) (start : Nat)
    (cs : List Char) :
    readPieces start ('\\' :: c :: cs) =
      (readPieces start cs).map fun (found, after) => (.char e :: found, after) := by
  have hc : c ≠ 'u' := by
    rintro rfl
    cases he
  rw [readPieces]
  case x_1 => exact fun _ _ _ _ _ _ h => absurd h hc
  case x_2 => exact hc
  rw [he]
  rfl

theorem readPieces_plain {c : Char} (hquote : c ≠ '"') (hback : c ≠ '\\')
    (hc : ¬c.toNat < 0x20) (start : Nat) (cs : List Char) :
    readPieces start (c :: cs) =
      (readPieces start cs).map fun (found, after) => (.char c :: found, after) := by
  rw [readPieces]
  case x_1 => exact hquote
  case x_2 => exact fun _ _ _ _ _ _ h => absurd h hback
  case x_3 => exact fun _ h => absurd h hback
  case x_4 => exact fun h => absurd h hback
  case x_5 => exact fun _ _ h => absurd h hback
  rw [if_neg hc]
  rfl

theorem readPieces_takes {start : Nat} {cs rest : List Char} {found : List Piece}
    (h : readPieces start cs = .ok (found, rest)) :
    ∃ w, cs = w ++ rest ∧ ∀ start' y, readPieces start' (w ++ y) = .ok (found, y) := by
  fun_induction readPieces start cs generalizing found rest with
  | case2 rest' =>
    cases h
    exact ⟨['"'], rfl, fun _ _ => by rw [List.singleton_append, readPieces]⟩
  | case4 a b c d x rest' n hn ih =>
    obtain ⟨⟨more, after⟩, hmore, h⟩ := bind_eq_ok_iff.mp h
    cases h
    obtain ⟨w, hw, htakes⟩ := ih hmore
    cases w with
    | nil => cases htakes 0 []
    | cons x w =>
      obtain ⟨rfl, rfl⟩ := List.cons.inj hw
      refine ⟨'\\' :: 'u' :: a :: b :: c :: d :: x :: w, rfl, fun start' y => ?_⟩
      simp only [List.cons_append, readPieces, hn]
      rw [← List.cons_append, htakes]
      rfl
  | case8 c rest' hlong hu e he ih =>
    obtain ⟨⟨more, after⟩, hmore, h⟩ := bind_eq_ok_iff.mp h
    cases h
    obtain ⟨w, rfl, htakes⟩ := ih hmore
    refine ⟨'\\' :: c :: w, rfl, fun start' y => ?_⟩
    rw [List.cons_append, List.cons_append, readPieces_escape he, htakes]
    rfl
  | case10 c rest' hquote _ _ hend hback hc ih =>
    obtain ⟨⟨more, after⟩, hmore, h⟩ := bind_eq_ok_iff.mp h
    cases h
    have hc' : c ≠ '\\' := by
      intro hc'
      cases rest' with
      | nil => exact hend hc' rfl
      | cons d more => exact hback d more hc' rfl
    obtain ⟨w, rfl, htakes⟩ := ih hmore
    refine ⟨c :: w, rfl, fun start' y => ?_⟩
    rw [List.cons_append, readPieces_plain hquote hc' hc, htakes]
    rfl
  | _ => cases h

theorem readPieces_error {start : Nat} {cs : List Char} {e : Located}
    (h : readPieces start cs = .error e) :
    e.1 ∈ [.unterminated, .unicodeEscape, .escape, .control] := by
  fun_induction readPieces start cs with
  | case2 => cases h
  | case4 _ _ _ _ _ _ _ _ ih | case8 _ _ _ _ _ _ ih | case10 _ _ _ _ _ _ _ _ ih =>
    rcases bind_eq_error_iff.mp h with h | ⟨_, _, h⟩
    · exact ih h
    · cases h
  | _ =>
    cases h
    simp

theorem readString_takes {start : Nat} {cs rest : List Char} {s : String}
    (h : readString start cs = .ok (s, rest)) :
    ∃ w, cs = w ++ rest ∧ ∀ start' y, readString start' (w ++ y) = .ok (s, y) := by
  obtain ⟨⟨found, after⟩, hfound, h⟩ := bind_eq_ok_iff.mp h
  cases h
  obtain ⟨w, hw, htakes⟩ := readPieces_takes hfound
  refine ⟨w, hw, fun start' y => ?_⟩
  rw [readString, htakes]
  rfl

theorem readString_error {start : Nat} {cs : List Char} {e : Located}
    (h : readString start cs = .error e) :
    e.1 ∈ [.unterminated, .unicodeEscape, .escape, .control] := by
  rcases bind_eq_error_iff.mp h with h | ⟨_, _, h⟩
  · exact readPieces_error h
  · cases h

end Strings

section Words

theorem afterWord?_eq_some_iff {word cs rest : List Char} :
    afterWord? word cs = some rest ↔ cs = word ++ rest := by
  induction word generalizing cs with
  | nil => exact ⟨fun h => Option.some.inj h, fun h => congrArg some h⟩
  | cons w word ih =>
    cases cs with
    | nil => exact ⟨nofun, nofun⟩
    | cons c cs =>
      rw [afterWord?, List.cons_append, List.cons.injEq]
      split
      · next hw => rw [ih, hw]; simp
      · next hw => exact ⟨nofun, fun h => absurd h.1.symm hw⟩

/-- A text that starts a string, an array or an object. -/
def Opens (c : Char) : Prop := c = '"' ∨ c = '[' ∨ c = '\x7b'

instance : DecidablePred Opens := fun _ => inferInstanceAs (Decidable (_ ∨ _))

theorem words_toList {word : String} {v : Json} (h : (word, v) ∈ words) :
    ∃ c w, word.toList = c :: w ∧ c.isDigit = false ∧ ¬Opens c ∧
      (c = '-' → w.head? = some 'I') ∧ ∀ y, readWord? (c :: w ++ y) = some (v, y) := by
  simp only [words, List.mem_cons, List.not_mem_nil, or_false, Prod.mk.injEq] at h
  rcases h with ⟨rfl, rfl⟩ | ⟨rfl, rfl⟩ | ⟨rfl, rfl⟩ | ⟨rfl, rfl⟩ | ⟨rfl, rfl⟩ | ⟨rfl, rfl⟩ <;>
    exact ⟨_, _, rfl, rfl, by decide, by decide, fun _ => rfl⟩

theorem readWord?_takes {cs rest : List Char} {v : Json} (h : readWord? cs = some (v, rest)) :
    ∃ c w, cs = c :: w ++ rest ∧ c.isDigit = false ∧ ¬Opens c ∧
      (c = '-' → w.head? = some 'I') ∧ ∀ y, readWord? (c :: w ++ y) = some (v, y) := by
  obtain ⟨⟨word, v'⟩, hmem, hword⟩ := List.exists_of_findSome?_eq_some h
  obtain ⟨rest', hafter, hpair⟩ := Option.map_eq_some_iff.mp hword
  obtain ⟨rfl, rfl⟩ := Prod.mk.inj hpair
  obtain ⟨c, w, hcw, hword⟩ := words_toList hmem
  exact ⟨c, w, by rw [afterWord?_eq_some_iff.mp hafter, hcw], hword⟩

theorem readWord?_signed {d : Char} (hd : d.isDigit = true) (negative : Bool) (cs : List Char) :
    readWord? (signed negative (d :: cs)) = none := by
  rw [Option.eq_none_iff_forall_ne_some]
  rintro ⟨v, rest⟩ h
  obtain ⟨c, w, hcs, hc, -, hminus, -⟩ := readWord?_takes h
  cases negative with
  | false =>
    obtain ⟨rfl, -⟩ := List.cons.inj hcs
    rw [hc] at hd
    cases hd
  | true =>
    obtain ⟨rfl, hds⟩ := List.cons.inj hcs
    obtain ⟨w', rfl⟩ := List.head?_eq_some_iff.mp (hminus rfl)
    obtain ⟨rfl, -⟩ := List.cons.inj hds
    cases hd

end Words

end ServerUi.Json
