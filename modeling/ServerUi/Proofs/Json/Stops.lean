import ServerUi.Proofs.Json.Reading

/-! Where reading a value stops. A whole number of too many digits is refused exactly where the text in
front of it, taken alone, breaks off because a value is missing. -/

namespace ServerUi.Json

section Stops

variable {R : Nat → List Char → Except Located (α × List Char)}
  {inner : Nat → List Char → Except Located (β × List Char)} {fuel : Nat} {cs z : List Char}
  {e : Located}

/-- Where a value is to begin, reading the text stops: the text ends, or a whole number of too many
digits stands there. -/
def Stops (z : List Char) (e : Located) : Prop :=
  z = [] ∧ e = (.value, 0) ∨
    ∃ digits, integerDigitLimit < digits ∧ WholeAhead digits z ∧
      e = (.longInteger digits, z.length)

theorem stops_nil : Stops [] (.value, 0) := .inl ⟨rfl, rfl⟩

theorem WholeAhead.exists_signed {digits : Nat} (h : WholeAhead digits z) :
    ∃ negative d ds, d.isDigit = true ∧ z = signed negative (d :: ds) := by
  obtain ⟨negative, whole, back, rfl, hwhole, -⟩ := h
  match whole, hwhole with
  | [], hwhole => exact absurd rfl hwhole.ne_nil
  | d :: ds, hwhole => exact ⟨negative, d, ds ++ back, hwhole.digits d List.mem_cons_self, rfl⟩

theorem Stops.head (h : Stops z e) : ∀ c ∈ z.head?, c = '-' ∨ c.isDigit = true := by
  obtain ⟨rfl, -⟩ | ⟨digits, -, hwhole, -⟩ := h
  · exact nofun
  · obtain ⟨negative, d, ds, hd, rfl⟩ := hwhole.exists_signed
    cases negative with
    | true => rintro c ⟨⟩; exact .inl rfl
    | false => rintro c ⟨⟩; exact .inr hd

theorem Stops.not_closing (h : Stops z e) :
    ∀ c ∈ z.head?, isBlank c = false ∧ c ≠ ']' ∧ c ≠ '\x7d' := by
  intro c hc
  rcases h.head c hc with rfl | hd
  · decide
  · refine ⟨?_, ?_, ?_⟩
    · rw [Bool.eq_false_iff]
      intro hblank
      simp only [isBlank, Bool.or_eq_true, beq_iff_eq, or_assoc] at hblank
      rcases hblank with rfl | rfl | rfl | rfl <;> cases hd
    · rintro rfl
      cases hd
    · rintro rfl
      cases hd

theorem Stops.readValue (h : Stops z e) : readValue (fuel + 1) z = .error e := by
  obtain ⟨rfl, rfl⟩ | ⟨digits, hlong, hwhole, rfl⟩ := h
  · rfl
  · obtain ⟨negative, d, ds, hd, hz⟩ := hwhole.exists_signed
    rw [hz, readValue_number hd, ← hz, hwhole.readNumber hlong]

theorem Stops.atValue (h : Stops z e) : AtValue e := by
  obtain ⟨-, rfl⟩ | ⟨digits, -, -, rfl⟩ := h
  · exact .inl rfl
  · exact .inr ⟨digits, _, rfl⟩

/-- What awaits a value behind blanks starts with no blank, whatever stops it. -/
theorem Stops.skipBlanks_append {text front blanks z' : List Char} {e' : Located}
    (hz' : Stops z' e') (hsplit : skipBlanks text = front ++ z)
    (hblanks : ∀ c ∈ blanks, isBlank c = true) :
    skipBlanks (blanks ++ (front ++ z')) = front ++ z' := by
  refine Json.skipBlanks_append hblanks (head_append (fun c hc => ?_) fun c hc => ?_)
  · refine head_skipBlanks text c ?_
    rw [hsplit, List.head?_append, Option.mem_def.mp hc]
    rfl
  · exact (hz'.not_closing c hc).1

/-- Behind `front` a value is to begin, so that reading stops with what stops there. -/
def Awaits (R : Nat → List Char → Except Located (α × List Char)) (extra : Nat)
    (front : List Char) : Prop :=
  ∀ z e, Stops z e → ∀ fuel, 2 * front.length + extra ≤ fuel → R fuel (front ++ z) = .error e

/-- The text falls into what awaits a value and what stops reading there. -/
def Breaks (R : Nat → List Char → Except Located (α × List Char)) (extra : Nat)
    (cs : List Char) (e : Located) : Prop :=
  ∃ front z, cs = front ++ z ∧ Stops z e ∧ Awaits R extra front

theorem Awaits.of_succ {extra : Nat} {front : List Char}
    (h : ∀ z e, Stops z e → ∀ k, 2 * front.length + extra ≤ k → R (k + 1) (front ++ z) = .error e) :
    Awaits R (extra + 1) front := by
  intro z e hz fuel hfuel
  obtain ⟨k, rfl⟩ : ∃ k, fuel = k + 1 := ⟨fuel - 1, by omega⟩
  exact h z e hz k (by omega)

theorem awaits_nil : Awaits readValue 1 [] := .of_succ fun _ _ hz _ _ => hz.readValue

theorem Breaks.behind_blanks {extra : Nat} {text : List Char}
    (h : Breaks R extra (skipBlanks text) e) :
    ∃ front z, text = front ++ z ∧ Stops z e ∧ ∀ z' e', Stops z' e' →
      (∀ c ∈ (skipBlanks (front ++ z')).head?, (skipBlanks text).head? = some c ∨ c ∈ z'.head?) ∧
      ∀ k, 2 * front.length + extra ≤ k → R k (skipBlanks (front ++ z')) = .error e' := by
  obtain ⟨front, z, hsplit, hz, hawaits⟩ := h
  obtain ⟨blanks, hblanks, htext⟩ := exists_blanks text
  rw [hsplit] at htext
  refine ⟨blanks ++ front, z, by rw [htext, List.append_assoc], hz, fun z' e' hz' => ?_⟩
  rw [List.append_assoc, hz'.skipBlanks_append hsplit hblanks]
  refine ⟨head_append (fun c hc => .inl ?_) fun c hc => .inr hc,
    fun k hk => hawaits z' e' hz' k ?_⟩
  · rw [hsplit, List.head?_append, Option.mem_def.mp hc]
    rfl
  · rw [List.length_append] at hk
    omega

theorem Bracketed.breaks {opening closing : Char} {empty : α} {wrap : β → α}
    (h : Bracketed R inner opening closing empty wrap) {text : List Char}
    (hinner : ∀ e, inner fuel (skipBlanks text) = .error e → AtValue e →
      Breaks inner 2 (skipBlanks text) e)
    (he : AtValue e) (hread : R (fuel + 1) (opening :: text) = .error e) :
    Breaks R 1 (opening :: text) e := by
  by_cases hempty : (skipBlanks text).head? = some closing
  · obtain ⟨after, hafter⟩ := List.head?_eq_some_iff.mp hempty
    cases (h.readsEmpty hafter).symm.trans hread
  rw [h.readsInner hempty] at hread
  obtain ⟨front, z, rfl, hz, hawaits⟩ := (hinner e (map_eq_error_iff.mp hread) he).behind_blanks
  refine ⟨opening :: front, z, rfl, hz, .of_succ fun z' e' hz' k hk => ?_⟩
  obtain ⟨hhead, hstop⟩ := hawaits z' e' hz'
  -- Nothing that stops a value closes the brackets, so again the inner reader is asked.
  have hfull : (skipBlanks (front ++ z')).head? ≠ some closing := by
    intro hclosing
    rcases hhead closing hclosing with hc | hc
    · exact hempty hc
    · obtain ⟨-, hbracket, hbrace⟩ := hz'.not_closing closing hc
      exact h.closes.elim hbracket hbrace
  rw [List.length_cons] at hk
  rw [List.cons_append, h.readsInner hfull, hstop k (by omega)]
  rfl

theorem readValue_breaks_bare (hbare : ∀ c ∈ cs.head?, ¬Opens c)
    (h : readValue (fuel + 1) cs = .error e) (he : AtValue e) : Breaks readValue 1 cs e := by
  refine ⟨[], cs, rfl, ?_, awaits_nil⟩
  rw [readValue_bare hbare] at h
  cases hword : readWord? cs with
  | some found =>
    rw [hword] at h
    cases h
  | none =>
    rw [hword] at h
    obtain ⟨flaw, left⟩ := e
    obtain ⟨rfl, rfl | ⟨digits, rfl, hlong, hwhole⟩⟩ := readNumber_error h
    · rcases he with he | ⟨_, _, ⟨⟩⟩
      obtain rfl := List.eq_nil_of_length_eq_zero (Prod.mk.inj he).2
      exact .inl ⟨rfl, rfl⟩
    · exact .inr ⟨digits, hlong, hwhole, rfl⟩

theorem readValue_breaks_step
    (hitems : ∀ cs e, 2 * cs.length + 2 ≤ fuel → readItems fuel cs = .error e → AtValue e →
      Breaks readItems 2 cs e)
    (hmembers : ∀ cs e, 2 * cs.length + 2 ≤ fuel → readMembers fuel [] cs = .error e →
      AtValue e → Breaks (readMembers · []) 2 cs e)
    (hfuel : 2 * cs.length + 1 ≤ fuel + 1) (h : readValue (fuel + 1) cs = .error e)
    (he : AtValue e) : Breaks readValue 1 cs e := by
  by_cases hbare : ∀ c ∈ cs.head?, ¬Opens c
  · exact readValue_breaks_bare hbare h he
  obtain ⟨text, rfl | rfl | rfl⟩ := exists_opens hbare
  · rw [readValue_string] at h
    exact absurd he (readString_error_not_atValue (map_eq_error_iff.mp h))
  all_goals
    have := length_skipBlanks_le text
    rw [List.length_cons] at hfuel
  · exact bracketed_array.breaks (fun e => hitems _ e (by omega)) he h
  · exact bracketed_object.breaks (fun e => hmembers _ e (by omega)) he h

theorem readItems_breaks_step
    (hvalue : ∀ cs e, 2 * cs.length + 1 ≤ fuel → readValue fuel cs = .error e → AtValue e →
      Breaks readValue 1 cs e)
    (hitems : ∀ cs e, 2 * cs.length + 2 ≤ fuel → readItems fuel cs = .error e → AtValue e →
      Breaks readItems 2 cs e)
    (hfuel : 2 * cs.length + 2 ≤ fuel + 1) (h : readItems (fuel + 1) cs = .error e)
    (he : AtValue e) : Breaks readItems 2 cs e := by
  obtain ⟨e', hv, he'⟩ | ⟨v, behind, hv, hbehind⟩ := readItems_cases fuel cs
  · cases he'.symm.trans h
    obtain ⟨front, z, hsplit, hz, hawaits⟩ := hvalue cs e (by omega) hv he
    refine ⟨front, z, hsplit, hz, .of_succ fun z' e' hz' k hk => ?_⟩
    rw [readItems, hawaits z' e' hz' k hk]
    rfl
  obtain ⟨after, -, hread⟩ | ⟨more, hmore, hread⟩ | ⟨e', hnot, he'⟩ := hbehind
  · cases hread.symm.trans h
  -- The first item is not at fault: it is taken off any text that goes on with a comma.
  · obtain ⟨c, w, rfl, htakes⟩ := (takes fuel).1 _ _ _ hv
    obtain ⟨blanks, hblanks, hcomma, rfl⟩ := exists_blanks_cons hmore
    have hshort := length_skipBlanks_le more
    simp only [List.length_append, List.length_cons] at hfuel
    obtain ⟨front, z, rfl, hz, hawaits⟩ :=
      (hitems _ e (by omega) (map_eq_error_iff.mp (hread.symm.trans h)) he).behind_blanks
    refine ⟨c :: w ++ blanks ++ ',' :: front, z, by simp, hz, .of_succ fun z' e' hz' k hk => ?_⟩
    simp only [List.length_append, List.length_cons] at hk
    have hv' := htakes k (blanks ++ ',' :: (front ++ z')) (by omega)
      (closes_blanks hblanks (by simp))
    rw [show c :: w ++ blanks ++ ',' :: front ++ z' =
      c :: w ++ (blanks ++ ',' :: (front ++ z')) by simp]
    rw [readItems_more hv' (skipBlanks_append_cons hblanks hcomma _),
      (hawaits z' e' hz').2 k (by omega)]
    rfl
  · cases he'.symm.trans h
    exact absurd he hnot

theorem readMembers_breaks_step
    (hvalue : ∀ cs e, 2 * cs.length + 1 ≤ fuel → readValue fuel cs = .error e → AtValue e →
      Breaks readValue 1 cs e)
    (hmembers : ∀ found cs e, 2 * cs.length + 2 ≤ fuel → readMembers fuel found cs = .error e →
      AtValue e → Breaks (readMembers · found) 2 cs e)
    {found : Config} (hfuel : 2 * cs.length + 2 ≤ fuel + 1)
    (h : readMembers (fuel + 1) found cs = .error e) (he : AtValue e) :
    Breaks (readMembers · found) 2 cs e := by
  obtain ⟨e', hnot, he'⟩ | ⟨text, key, behind, value, rfl, hkey, hcolon, hv⟩ :=
    readMembers_cases fuel found cs
  · cases he'.symm.trans h
    exact absurd he hnot
  obtain ⟨k, rfl, htakesKey⟩ := key_takes hkey hcolon
  simp only [List.length_append, List.length_cons] at hfuel
  obtain ⟨e', hv, he'⟩ | ⟨v, behind', hv, hbehind⟩ := hv
  · cases he'.symm.trans h
    have hshort := length_skipBlanks_le value
    obtain ⟨front, z, rfl, hz, hawaits⟩ := (hvalue _ e (by omega) hv he).behind_blanks
    refine ⟨'"' :: (k ++ front), z, by simp, hz, .of_succ fun z' e' hz' n hn => ?_⟩
    simp only [List.length_append, List.length_cons] at hn
    rw [List.cons_append, List.append_assoc]
    obtain ⟨_, hkey', hcolon'⟩ := htakesKey _ (front ++ z')
    rw [readMembers_value hkey' hcolon', (hawaits z' e' hz').2 n (by omega)]
    rfl
  obtain ⟨after, -, hread⟩ | ⟨more, hmore, hread⟩ := hbehind
  · cases hread.symm.trans h
  obtain ⟨w, rfl, htakes⟩ := ((takes fuel).1 _ _ _ hv).behind_blanks
  obtain ⟨blanks, hblanks, hcomma, rfl⟩ := exists_blanks_cons hmore
  have hshort := length_skipBlanks_le more
  simp only [List.length_append, List.length_cons] at hfuel
  obtain ⟨front, z, rfl, hz, hawaits⟩ :=
    (hmembers _ _ e (by omega) (hread.symm.trans h) he).behind_blanks
  refine ⟨'"' :: (k ++ w ++ blanks ++ ',' :: front), z, by simp, hz,
    .of_succ fun z' e' hz' n hn => ?_⟩
  simp only [List.length_append, List.length_cons] at hn
  rw [show '"' :: (k ++ w ++ blanks ++ ',' :: front) ++ z' =
    '"' :: (k ++ (w ++ (blanks ++ ',' :: (front ++ z')))) by simp]
  obtain ⟨_, hkey', hcolon'⟩ := htakesKey _ (w ++ (blanks ++ ',' :: (front ++ z')))
  have hv' := (htakes (blanks ++ ',' :: (front ++ z'))).2 n (by omega)
    (closes_blanks hblanks (by simp))
  rw [readMembers_more hkey' hcolon' hv' (skipBlanks_append_cons hblanks hcomma _)]
  exact (hawaits z' e' hz').2 n (by omega)

theorem breaks (fuel : Nat) :
    (∀ cs e, 2 * cs.length + 1 ≤ fuel → readValue fuel cs = .error e → AtValue e →
      Breaks readValue 1 cs e) ∧
    (∀ cs e, 2 * cs.length + 2 ≤ fuel → readItems fuel cs = .error e → AtValue e →
      Breaks readItems 2 cs e) ∧
    ∀ found cs e, 2 * cs.length + 2 ≤ fuel → readMembers fuel found cs = .error e →
      AtValue e → Breaks (readMembers · found) 2 cs e := by
  induction fuel with
  | zero =>
    exact ⟨fun _ _ h => absurd h (by omega), fun _ _ h => absurd h (by omega),
      fun _ _ _ h => absurd h (by omega)⟩
  | succ fuel ih =>
    obtain ⟨hvalue, hitems, hmembers⟩ := ih
    exact ⟨fun _ _ => readValue_breaks_step hitems (hmembers []),
      fun _ _ => readItems_breaks_step hvalue hitems,
      fun _ _ _ => readMembers_breaks_step hvalue hmembers⟩

end Stops

section Text

variable {cs : List Char} {e : Located}

theorem readText_error_iff (he : AtValue e) :
    readText cs = .error e ↔
      cs.head? ≠ some '\ufeff' ∧ readValue (2 * cs.length + 2) (skipBlanks cs) = .error e := by
  unfold readText
  split
  · refine ⟨fun h => ?_, fun h => absurd rfl h.1⟩
    rcases he with rfl | ⟨_, _, rfl⟩ <;> cases h
  · next hmark =>
    have hhead : cs.head? ≠ some '\ufeff' := fun h => by
      obtain ⟨rest, rfl⟩ := List.head?_eq_some_iff.mp h
      exact hmark rest rfl
    rw [bind_eq_error_iff]
    refine ⟨?_, fun h => .inl h.2⟩
    rintro (h | ⟨⟨v, behind⟩, -, h⟩)
    · exact ⟨hhead, h⟩
    · dsimp only at h
      split at h
      · cases h
      · cases h
        rcases he with ⟨⟨⟩⟩ | ⟨_, _, ⟨⟩⟩

theorem readText_breaks (h : readText cs = .error e) (he : AtValue e) :
    ∃ front z, cs = front ++ z ∧ Stops z e ∧
      ∀ z' e', Stops z' e' → readText (front ++ z') = .error e' := by
  obtain ⟨hmark, hvalue⟩ := (readText_error_iff he).mp h
  have hshort := length_skipBlanks_le cs
  obtain ⟨front, z, rfl, hz, hawaits⟩ := ((breaks _).1 _ e (by omega) hvalue he).behind_blanks
  refine ⟨front, z, rfl, hz, fun z' e' hz' => ?_⟩
  rw [readText_error_iff hz'.atValue]
  refine ⟨?_, (hawaits z' e' hz').2 _ (by simp only [List.length_append]; omega)⟩
  have hhead : ∀ c ∈ (front ++ z').head?, c ≠ '\ufeff' := by
    refine head_append (fun c hc hmark' => hmark ?_) fun c hc => ?_
    · rw [List.head?_append, Option.mem_def.mp hc, hmark']
      rfl
    · rcases hz'.head c hc with rfl | hd
      · decide
      · rintro rfl
        cases hd
  exact fun hc => hhead _ hc rfl

/-- A text is refused for a whole number of too many digits exactly if such a number stands in it and
what is in front of the number breaks off where a value is to begin. -/
theorem readText_longInteger_iff {digits left : Nat} :
    readText cs = .error (.longInteger digits, left) ↔
      integerDigitLimit < digits ∧ ∃ front number, cs = front ++ number ∧ left = number.length ∧
        WholeAhead digits number ∧ readText front = .error (.value, 0) := by
  constructor
  · intro h
    obtain ⟨front, z, rfl, hz, hbreaks⟩ := readText_breaks h (.inr ⟨digits, left, rfl⟩)
    obtain ⟨-, ⟨⟩⟩ | ⟨digits', hlong, hwhole, heq⟩ := hz
    obtain ⟨hdigits, rfl⟩ := Prod.mk.inj heq
    cases hdigits
    refine ⟨hlong, front, z, rfl, rfl, hwhole, ?_⟩
    have hfront := hbreaks [] (.value, 0) stops_nil
    rwa [List.append_nil] at hfront
  · rintro ⟨hlong, front, number, rfl, rfl, hwhole, hfront⟩
    obtain ⟨front', z, rfl, hz, hbreaks⟩ := readText_breaks hfront (.inl rfl)
    obtain ⟨rfl, -⟩ | ⟨_, _, _, ⟨⟩⟩ := hz
    rw [List.append_nil]
    exact hbreaks number _ (.inr ⟨digits, hlong, hwhole, rfl⟩)

end Text

end ServerUi.Json
