import ServerUi.Proofs.Json.Parts

/-! What the readers of values take off a text. -/

namespace ServerUi.Json

section Values

variable {fuel : Nat} {cs rest : List Char}

theorem readValue_string :
    readValue (fuel + 1) ('"' :: rest) =
      (readString (rest.length + 1) rest).map fun (s, after) => (.str s, after) := rfl

theorem readValue_empty_array {after : List Char} (h : skipBlanks rest = ']' :: after) :
    readValue (fuel + 1) ('[' :: rest) = .ok (.arr [], after) := by
  rw [readValue, h]
  rfl

theorem readValue_array (h : (skipBlanks rest).head? ≠ some ']') :
    readValue (fuel + 1) ('[' :: rest) =
      (readItems fuel (skipBlanks rest)).map fun (vs, after) => (.arr vs, after) := by
  rw [readValue]
  split
  · next heq => exact absurd (congrArg List.head? heq) h
  · rfl

theorem readValue_empty_object {after : List Char} (h : skipBlanks rest = '\x7d' :: after) :
    readValue (fuel + 1) ('\x7b' :: rest) = .ok (.obj [], after) := by
  rw [readValue, h]
  rfl

theorem readValue_object (h : (skipBlanks rest).head? ≠ some '\x7d') :
    readValue (fuel + 1) ('\x7b' :: rest) =
      (readMembers fuel [] (skipBlanks rest)).map fun (ms, after) => (.obj ms, after) := by
  rw [readValue]
  split
  · next heq => exact absurd (congrArg List.head? heq) h
  · rfl

theorem readValue_bare (h : ∀ c ∈ cs.head?, ¬Opens c) :
    readValue (fuel + 1) cs = (readWord? cs).elim (readNumber cs) .ok := by
  rw [readValue]
  case x_3 =>
    rintro rest rfl
    exact h _ rfl (.inl rfl)
  case x_4 =>
    rintro rest rfl
    exact h _ rfl (.inr (.inl rfl))
  case x_5 =>
    rintro rest rfl
    exact h _ rfl (.inr (.inr rfl))
  cases readWord? cs <;> rfl

theorem exists_opens (h : ¬∀ c ∈ cs.head?, ¬Opens c) :
    ∃ text, cs = '"' :: text ∨ cs = '[' :: text ∨ cs = '\x7b' :: text := by
  match cs with
  | [] => exact absurd nofun h
  | c :: text =>
    have hc : Opens c := by
      by_contra hc
      exact h (by rintro _ ⟨⟩; exact hc)
    rcases hc with rfl | rfl | rfl
    · exact ⟨text, .inl rfl⟩
    · exact ⟨text, .inr (.inl rfl)⟩
    · exact ⟨text, .inr (.inr rfl)⟩

theorem readValue_number {d : Char} (hd : d.isDigit = true) (negative : Bool) (cs : List Char) :
    readValue (fuel + 1) (signed negative (d :: cs)) = readNumber (signed negative (d :: cs)) := by
  rw [readValue_bare, readWord?_signed hd]
  · rfl
  · cases negative with
    | true => rintro c ⟨⟩; simp [Opens]
    | false => rintro c ⟨⟩ (rfl | rfl | rfl) <;> cases hd

theorem readItems_last {v : Json} {behind after : List Char}
    (hv : readValue fuel cs = .ok (v, behind)) (hbehind : skipBlanks behind = ']' :: after) :
    readItems (fuel + 1) cs = .ok ([v], after) := by
  rw [readItems, hv]
  dsimp only [bind, Except.bind]
  rw [hbehind]
  rfl

theorem readItems_more {v : Json} {behind more : List Char}
    (hv : readValue fuel cs = .ok (v, behind)) (hbehind : skipBlanks behind = ',' :: more) :
    readItems (fuel + 1) cs =
      (readItems fuel (skipBlanks more)).map fun (vs, after) => (v :: vs, after) := by
  rw [readItems, hv]
  dsimp only [bind, Except.bind]
  rw [hbehind]
  rfl

/-- A member of which the key and the colon have been read. -/
theorem readMembers_value {found : Config} {key : String} {text behind : List Char}
    (hkey : readString (rest.length + 1) rest = .ok (key, behind))
    (hbehind : skipBlanks behind = ':' :: text) :
    readMembers (fuel + 1) found ('"' :: rest) =
      readValue fuel (skipBlanks text) >>= fun x =>
        match skipBlanks x.2 with
        | '\x7d' :: after => .ok (found.put key x.1, after)
        | ',' :: more => readMembers fuel (found.put key x.1) (skipBlanks more)
        | other => .error (.comma, other.length) := by
  rw [readMembers, List.length_cons, hkey]
  dsimp only [bind, Except.bind]
  rw [hbehind]
  rfl

theorem readMembers_last {found : Config} {key : String} {v : Json}
    {text behind behind' after : List Char}
    (hkey : readString (rest.length + 1) rest = .ok (key, behind))
    (hbehind : skipBlanks behind = ':' :: text)
    (hv : readValue fuel (skipBlanks text) = .ok (v, behind'))
    (hbehind' : skipBlanks behind' = '\x7d' :: after) :
    readMembers (fuel + 1) found ('"' :: rest) = .ok (found.put key v, after) := by
  rw [readMembers_value hkey hbehind, hv]
  dsimp only [bind, Except.bind]
  rw [hbehind']
  rfl

theorem readMembers_more {found : Config} {key : String} {v : Json}
    {text behind behind' more : List Char}
    (hkey : readString (rest.length + 1) rest = .ok (key, behind))
    (hbehind : skipBlanks behind = ':' :: text)
    (hv : readValue fuel (skipBlanks text) = .ok (v, behind'))
    (hbehind' : skipBlanks behind' = ',' :: more) :
    readMembers (fuel + 1) found ('"' :: rest) =
      readMembers fuel (found.put key v) (skipBlanks more) := by
  rw [readMembers_value hkey hbehind, hv]
  dsimp only [bind, Except.bind]
  rw [hbehind']
  rfl

/-- An error of the kind that is met where a value is to begin. -/
def AtValue (e : Located) : Prop := e = (.value, 0) ∨ ∃ digits left, e = (.longInteger digits, left)

theorem readString_error_not_atValue {start : Nat} {e : Located}
    (h : readString start cs = .error e) : ¬AtValue e := by
  have hflaw := readString_error h
  rintro (rfl | ⟨digits, left, rfl⟩) <;> simp at hflaw

theorem readItems_cases (fuel : Nat) (cs : List Char) :
    (∃ e, readValue fuel cs = .error e ∧ readItems (fuel + 1) cs = .error e) ∨
    ∃ v behind, readValue fuel cs = .ok (v, behind) ∧
      ((∃ after, skipBlanks behind = ']' :: after ∧ readItems (fuel + 1) cs = .ok ([v], after)) ∨
        (∃ more, skipBlanks behind = ',' :: more ∧ readItems (fuel + 1) cs =
          (readItems fuel (skipBlanks more)).map fun (vs, after) => (v :: vs, after)) ∨
        ∃ e, ¬AtValue e ∧ readItems (fuel + 1) cs = .error e) := by
  cases hv : readValue fuel cs with
  | error e =>
    refine .inl ⟨e, rfl, ?_⟩
    rw [readItems, hv]
    rfl
  | ok found =>
    obtain ⟨v, behind⟩ := found
    refine .inr ⟨v, behind, rfl, ?_⟩
    by_cases hlast : ∃ after, skipBlanks behind = ']' :: after
    · obtain ⟨after, h⟩ := hlast
      exact .inl ⟨after, h, readItems_last hv h⟩
    by_cases hmore : ∃ more, skipBlanks behind = ',' :: more
    · obtain ⟨more, h⟩ := hmore
      exact .inr (.inl ⟨more, h, readItems_more hv h⟩)
    · refine .inr (.inr ⟨(.comma, (skipBlanks behind).length), by simp [AtValue], ?_⟩)
      rw [readItems, hv]
      dsimp only [bind, Except.bind]
      split
      · next after h => exact absurd ⟨after, h⟩ hlast
      · next more h => exact absurd ⟨more, h⟩ hmore
      · rfl

theorem readMembers_cases (fuel : Nat) (found : Config) (cs : List Char) :
    (∃ e, ¬AtValue e ∧ readMembers (fuel + 1) found cs = .error e) ∨
    ∃ rest key behind text, cs = '"' :: rest ∧
      readString (rest.length + 1) rest = .ok (key, behind) ∧ skipBlanks behind = ':' :: text ∧
      ((∃ e, readValue fuel (skipBlanks text) = .error e ∧
          readMembers (fuel + 1) found cs = .error e) ∨
        ∃ v behind', readValue fuel (skipBlanks text) = .ok (v, behind') ∧
          ((∃ after, skipBlanks behind' = '\x7d' :: after ∧
              readMembers (fuel + 1) found cs = .ok (found.put key v, after)) ∨
            ∃ more, skipBlanks behind' = ',' :: more ∧ readMembers (fuel + 1) found cs =
              readMembers fuel (found.put key v) (skipBlanks more))) := by
  by_cases hquote : ∃ rest, cs = '"' :: rest
  case neg =>
    refine .inl ⟨(.propertyName, cs.length), by simp [AtValue], ?_⟩
    rw [readMembers]
    exact fun rest h => hquote ⟨rest, h⟩
  obtain ⟨rest, rfl⟩ := hquote
  cases hkey : readString (rest.length + 1) rest with
  | error e =>
    refine .inl ⟨e, readString_error_not_atValue hkey, ?_⟩
    rw [readMembers, List.length_cons, hkey]
    rfl
  | ok found' =>
    obtain ⟨key, behind⟩ := found'
    by_cases hcolon : ∃ text, skipBlanks behind = ':' :: text
    case neg =>
      refine .inl ⟨(.colon, (skipBlanks behind).length), by simp [AtValue], ?_⟩
      rw [readMembers, List.length_cons, hkey]
      dsimp only [bind, Except.bind]
      split
      · next text h => exact absurd ⟨text, h⟩ hcolon
      · rfl
    obtain ⟨text, htext⟩ := hcolon
    cases hv : readValue fuel (skipBlanks text) with
    | error e =>
      exact .inr ⟨rest, key, behind, text, rfl, hkey, htext,
        .inl ⟨e, hv, by rw [readMembers_value hkey htext, hv]; rfl⟩⟩
    | ok value =>
      obtain ⟨v, behind'⟩ := value
      by_cases hlast : ∃ after, skipBlanks behind' = '\x7d' :: after
      · obtain ⟨after, h⟩ := hlast
        exact .inr ⟨rest, key, behind, text, rfl, hkey, htext,
          .inr ⟨v, behind', hv, .inl ⟨after, h, readMembers_last hkey htext hv h⟩⟩⟩
      by_cases hmore : ∃ more, skipBlanks behind' = ',' :: more
      · obtain ⟨more, h⟩ := hmore
        exact .inr ⟨rest, key, behind, text, rfl, hkey, htext,
          .inr ⟨v, behind', hv, .inr ⟨more, h, readMembers_more hkey htext hv h⟩⟩⟩
      refine .inl ⟨(.comma, (skipBlanks behind').length), by simp [AtValue], ?_⟩
      rw [readMembers_value hkey htext, hv]
      dsimp only [bind, Except.bind]
      split
      · next after h => exact absurd ⟨after, h⟩ hlast
      · next more h => exact absurd ⟨more, h⟩ hmore
      · rfl

end Values

section Takes

/-- A reader takes a first part off the text. It takes the same off every text that starts with that
part and goes on with what closes a number. A value spends one step on itself and one on the list that
it stands in, so two steps for each character are enough. -/
def TakesOff (R : Nat → List Char → Except Located (α × List Char)) (cs : List Char) (a : α)
    (rest : List Char) : Prop :=
  ∃ c w, cs = c :: w ++ rest ∧
    ∀ fuel y, 2 * (w.length + 1) ≤ fuel → Closes y → R fuel (c :: w ++ y) = .ok (a, y)

section Steps

variable {R : Nat → List Char → Except Located (α × List Char)}
  {inner : Nat → List Char → Except Located (β × List Char)} {fuel : Nat}

theorem TakesOff.of_succ {cs rest : List Char} {a : α} (c : Char) (w : List Char)
    (hcs : cs = c :: w ++ rest)
    (h : ∀ k y, 2 * w.length + 1 ≤ k → Closes y → R (k + 1) (c :: w ++ y) = .ok (a, y)) :
    TakesOff R cs a rest := by
  refine ⟨c, w, hcs, fun fuel y hfuel hy => ?_⟩
  obtain ⟨k, rfl⟩ : ∃ k, fuel = k + 1 := ⟨fuel - 1, by omega⟩
  exact h k y (by omega) hy

/-- Blanks in front of what is taken belong to the first part. -/
theorem TakesOff.behind_blanks {text rest : List Char} {a : α}
    (h : TakesOff R (skipBlanks text) a rest) :
    ∃ w, text = w ++ rest ∧ ∀ y, (skipBlanks (w ++ y)).head? = (skipBlanks text).head? ∧
      ∀ k, 2 * w.length ≤ k → Closes y → R k (skipBlanks (w ++ y)) = .ok (a, y) := by
  obtain ⟨c, w, hcw, htakes⟩ := h
  obtain ⟨blanks, hblanks, hc, rfl⟩ := exists_blanks_cons (y := w ++ rest) hcw
  refine ⟨blanks ++ c :: w, by simp, fun y => ?_⟩
  have hskip : skipBlanks (blanks ++ c :: w ++ y) = c :: w ++ y := by
    rw [List.append_assoc]
    exact skipBlanks_append_cons hblanks hc (w ++ y)
  rw [hskip, hcw]
  refine ⟨rfl, fun k hk hy => htakes k y ?_ hy⟩
  simp only [List.length_append, List.length_cons] at hk
  omega

/-- A reader of what stands in brackets: nothing, or what the inner reader reads. -/
structure Bracketed (R : Nat → List Char → Except Located (α × List Char))
    (inner : Nat → List Char → Except Located (β × List Char)) (opening closing : Char)
    (empty : α) (wrap : β → α) : Prop where
  closes : closing = ']' ∨ closing = '\x7d'
  readsEmpty : ∀ {fuel text after}, skipBlanks text = closing :: after →
    R (fuel + 1) (opening :: text) = .ok (empty, after)
  readsInner : ∀ {fuel text}, (skipBlanks text).head? ≠ some closing →
    R (fuel + 1) (opening :: text) =
      (inner fuel (skipBlanks text)).map fun (b, after) => (wrap b, after)

theorem bracketed_array : Bracketed readValue readItems '[' ']' (.arr []) .arr :=
  ⟨.inl rfl, readValue_empty_array, readValue_array⟩

theorem bracketed_object :
    Bracketed readValue (readMembers · []) '\x7b' '\x7d' (.obj []) .obj :=
  ⟨.inr rfl, readValue_empty_object, readValue_object⟩

theorem Bracketed.takes {opening closing : Char} {empty : α} {wrap : β → α}
    (h : Bracketed R inner opening closing empty wrap)
    (hinner : ∀ cs b rest, inner fuel cs = .ok (b, rest) → TakesOff inner cs b rest)
    {text rest : List Char} {a : α} (hread : R (fuel + 1) (opening :: text) = .ok (a, rest)) :
    TakesOff R (opening :: text) a rest := by
  by_cases hempty : (skipBlanks text).head? = some closing
  · obtain ⟨after, hafter⟩ := List.head?_eq_some_iff.mp hempty
    obtain ⟨blanks, hblanks, hclosing, rfl⟩ := exists_blanks_cons hafter
    cases (h.readsEmpty hafter).symm.trans hread
    refine .of_succ opening (blanks ++ [closing]) (by simp) fun k y _ _ => ?_
    rw [List.cons_append, List.append_assoc]
    exact h.readsEmpty (skipBlanks_append_cons hblanks hclosing y)
  · rw [h.readsInner hempty] at hread
    obtain ⟨⟨b, after⟩, hb, hpair⟩ := map_eq_ok_iff.mp hread
    cases hpair
    obtain ⟨w, rfl, htakes⟩ := (hinner _ _ _ hb).behind_blanks
    refine .of_succ opening w rfl fun k y hk hy => ?_
    obtain ⟨hhead, hread⟩ := htakes y
    rw [← hhead] at hempty
    rw [List.cons_append, h.readsInner hempty, hread k (by omega) hy]
    rfl

theorem readValue_takes_bare {cs rest : List Char} {v : Json}
    (hbare : ∀ c ∈ cs.head?, ¬Opens c) (h : readValue (fuel + 1) cs = .ok (v, rest)) :
    TakesOff readValue cs v rest := by
  rw [readValue_bare hbare] at h
  cases hword : readWord? cs with
  | some found =>
    rw [hword] at h
    cases h
    obtain ⟨c, w, rfl, -, hc, -, htakes⟩ := readWord?_takes hword
    refine .of_succ c w rfl fun k y _ _ => ?_
    rw [readValue_bare (by rintro _ ⟨⟩; exact hc), htakes]
    rfl
  | none =>
    rw [hword] at h
    obtain ⟨negative, d, ds, hd, rfl, htakes⟩ := readNumber_takes h
    obtain ⟨c, w, hcw⟩ : ∃ c w, signed negative (d :: ds) = c :: w := by
      cases negative with
      | true => exact ⟨'-', d :: ds, rfl⟩
      | false => exact ⟨d, ds, rfl⟩
    refine .of_succ c w (by rw [hcw]) fun k y _ hy => ?_
    have hread := htakes y hy
    rw [← hcw]
    rw [← signed_append, List.cons_append] at hread ⊢
    rw [readValue_number hd, hread]

theorem readValue_takes_step
    (hitems : ∀ cs vs rest, readItems fuel cs = .ok (vs, rest) → TakesOff readItems cs vs rest)
    (hmembers : ∀ cs ms rest, readMembers fuel [] cs = .ok (ms, rest) →
      TakesOff (readMembers · []) cs ms rest)
    {cs rest : List Char} {v : Json} (h : readValue (fuel + 1) cs = .ok (v, rest)) :
    TakesOff readValue cs v rest := by
  by_cases hbare : ∀ c ∈ cs.head?, ¬Opens c
  · exact readValue_takes_bare hbare h
  obtain ⟨text, rfl | rfl | rfl⟩ := exists_opens hbare
  · rw [readValue_string] at h
    obtain ⟨⟨s, after⟩, hs, hpair⟩ := map_eq_ok_iff.mp h
    cases hpair
    obtain ⟨w, rfl, htakes⟩ := readString_takes hs
    refine .of_succ '"' w rfl fun k y _ _ => ?_
    rw [List.cons_append, readValue_string, htakes]
    rfl
  · exact bracketed_array.takes hitems h
  · exact bracketed_object.takes hmembers h

theorem readItems_takes_step
    (hvalue : ∀ cs v rest, readValue fuel cs = .ok (v, rest) → TakesOff readValue cs v rest)
    (hitems : ∀ cs vs rest, readItems fuel cs = .ok (vs, rest) → TakesOff readItems cs vs rest)
    {cs rest : List Char} {vs : List Json} (h : readItems (fuel + 1) cs = .ok (vs, rest)) :
    TakesOff readItems cs vs rest := by
  obtain ⟨e, -, he⟩ | ⟨v, behind, hv, hbehind⟩ := readItems_cases fuel cs
  · cases he.symm.trans h
  obtain ⟨c, w, rfl, htakes⟩ := hvalue _ _ _ hv
  obtain ⟨after, hafter, hread⟩ | ⟨more, hmore, hread⟩ | ⟨e, -, he⟩ := hbehind
  · cases hread.symm.trans h
    obtain ⟨blanks, hblanks, hbracket, rfl⟩ := exists_blanks_cons hafter
    refine .of_succ c (w ++ blanks ++ [']']) (by simp) fun k y hk _ => ?_
    simp only [List.length_append, List.length_cons] at hk
    have hv' := htakes k (blanks ++ ']' :: y) (by omega) (closes_blanks hblanks (by simp))
    rw [show c :: (w ++ blanks ++ [']']) ++ y = c :: w ++ (blanks ++ ']' :: y) by simp]
    exact readItems_last hv' (skipBlanks_append_cons hblanks hbracket y)
  · obtain ⟨⟨vs', after⟩, hvs, hpair⟩ := map_eq_ok_iff.mp (hread.symm.trans h)
    cases hpair
    obtain ⟨w', rfl, htakes'⟩ := (hitems _ _ _ hvs).behind_blanks
    obtain ⟨blanks, hblanks, hcomma, rfl⟩ := exists_blanks_cons hmore
    refine .of_succ c (w ++ blanks ++ ',' :: w') (by simp) fun k y hk hy => ?_
    simp only [List.length_append, List.length_cons] at hk
    have hv' := htakes k (blanks ++ ',' :: (w' ++ y)) (by omega) (closes_blanks hblanks (by simp))
    rw [show c :: (w ++ blanks ++ ',' :: w') ++ y = c :: w ++ (blanks ++ ',' :: (w' ++ y)) by simp]
    rw [readItems_more hv' (skipBlanks_append_cons hblanks hcomma _),
      (htakes' y).2 k (by omega) hy]
    rfl
  · cases he.symm.trans h

/-- The key of a member and the colon behind it are the same whatever value follows. -/
theorem key_takes {start : Nat} {text behind value : List Char} {key : String}
    (hkey : readString start text = .ok (key, behind)) (hcolon : skipBlanks behind = ':' :: value) :
    ∃ w, text = w ++ value ∧ ∀ start' y, ∃ behind',
      readString start' (w ++ y) = .ok (key, behind') ∧ skipBlanks behind' = ':' :: y := by
  obtain ⟨k, rfl, htakes⟩ := readString_takes hkey
  obtain ⟨blanks, hblanks, hblank, rfl⟩ := exists_blanks_cons hcolon
  refine ⟨k ++ blanks ++ [':'], by simp, fun start' y => ⟨blanks ++ ':' :: y, ?_, ?_⟩⟩
  · rw [show k ++ blanks ++ [':'] ++ y = k ++ (blanks ++ ':' :: y) by simp]
    exact htakes start' _
  · exact skipBlanks_append_cons hblanks hblank y

theorem readMembers_takes_step
    (hvalue : ∀ cs v rest, readValue fuel cs = .ok (v, rest) → TakesOff readValue cs v rest)
    (hmembers : ∀ found cs ms rest, readMembers fuel found cs = .ok (ms, rest) →
      TakesOff (readMembers · found) cs ms rest)
    {found ms : Config} {cs rest : List Char}
    (h : readMembers (fuel + 1) found cs = .ok (ms, rest)) :
    TakesOff (readMembers · found) cs ms rest := by
  obtain ⟨e, -, he⟩ | ⟨text, key, behind, value, rfl, hkey, hcolon, hv⟩ :=
    readMembers_cases fuel found cs
  · cases he.symm.trans h
  obtain ⟨e, -, he⟩ | ⟨v, behind', hv, hbehind⟩ := hv
  · cases he.symm.trans h
  obtain ⟨k, rfl, htakesKey⟩ := key_takes hkey hcolon
  obtain ⟨w, rfl, htakes⟩ := (hvalue _ _ _ hv).behind_blanks
  obtain ⟨after, hafter, hend⟩ | ⟨more, hmore, hend⟩ := hbehind
  · cases hend.symm.trans h
    obtain ⟨blanks, hblanks, hbrace, rfl⟩ := exists_blanks_cons hafter
    refine .of_succ '"' (k ++ w ++ blanks ++ ['\x7d']) (by simp) fun n y hn _ => ?_
    simp only [List.length_append, List.length_cons] at hn
    rw [show '"' :: (k ++ w ++ blanks ++ ['\x7d']) ++ y =
      '"' :: (k ++ (w ++ (blanks ++ '\x7d' :: y))) by simp]
    obtain ⟨_, hkey', hcolon'⟩ := htakesKey _ (w ++ (blanks ++ '\x7d' :: y))
    have hv' := (htakes (blanks ++ '\x7d' :: y)).2 n (by omega) (closes_blanks hblanks (by simp))
    exact readMembers_last hkey' hcolon' hv' (skipBlanks_append_cons hblanks hbrace y)
  · obtain ⟨w', rfl, htakes'⟩ := (hmembers _ _ _ _ (hend.symm.trans h)).behind_blanks
    obtain ⟨blanks, hblanks, hcomma, rfl⟩ := exists_blanks_cons hmore
    refine .of_succ '"' (k ++ w ++ blanks ++ ',' :: w') (by simp) fun n y hn hy => ?_
    simp only [List.length_append, List.length_cons] at hn
    rw [show '"' :: (k ++ w ++ blanks ++ ',' :: w') ++ y =
      '"' :: (k ++ (w ++ (blanks ++ ',' :: (w' ++ y)))) by simp]
    obtain ⟨_, hkey', hcolon'⟩ := htakesKey _ (w ++ (blanks ++ ',' :: (w' ++ y)))
    have hv' := (htakes (blanks ++ ',' :: (w' ++ y))).2 n (by omega)
      (closes_blanks hblanks (by simp))
    rw [readMembers_more hkey' hcolon' hv' (skipBlanks_append_cons hblanks hcomma _)]
    exact (htakes' y).2 n (by omega) hy

end Steps

theorem takes (fuel : Nat) :
    (∀ cs v rest, readValue fuel cs = .ok (v, rest) → TakesOff readValue cs v rest) ∧
    (∀ cs vs rest, readItems fuel cs = .ok (vs, rest) → TakesOff readItems cs vs rest) ∧
    ∀ found cs ms rest, readMembers fuel found cs = .ok (ms, rest) →
      TakesOff (readMembers · found) cs ms rest := by
  induction fuel with
  | zero => exact ⟨nofun, nofun, nofun⟩
  | succ fuel ih =>
    obtain ⟨hvalue, hitems, hmembers⟩ := ih
    exact ⟨fun _ _ _ h => readValue_takes_step hitems (hmembers []) h,
      fun _ _ _ h => readItems_takes_step hvalue hitems h,
      fun _ _ _ _ h => readMembers_takes_step hvalue hmembers h⟩

end Takes

end ServerUi.Json
