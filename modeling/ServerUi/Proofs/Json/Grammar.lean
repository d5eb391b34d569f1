import ServerUi.Proofs.Json.Parts

/-! The grammar of RFC 8259, without regard to any reader. Of bare words it has the three literal
names only, so that outside strings no text has a letter that just the words for other numbers
have. -/

namespace ServerUi.Json

def IsBlank (w : List Char) : Prop := ∀ c ∈ w, isBlank c = true

theorem isBlank_singleton {c : Char} (h : isBlank c = true) : IsBlank [c] :=
  List.forall_mem_singleton.mpr h

def IsDigits (ds : List Char) : Prop := ds ≠ [] ∧ ∀ d ∈ ds, d.isDigit = true

/-- A zero alone, or digits that start with another one. -/
def IsInt (ds : List Char) : Prop := ds = ['0'] ∨ IsWhole ds

inductive IsFraction : List Char → Prop where
  | none : IsFraction []
  | places {ds : List Char} (h : IsDigits ds) : IsFraction ('.' :: ds)

inductive IsPower : List Char → Prop where
  | none : IsPower []
  | power {e : Char} {sign ds : List Char} (he : e = 'e' ∨ e = 'E')
      (hsign : sign ∈ [[], ['+'], ['-']]) (h : IsDigits ds) : IsPower (e :: (sign ++ ds))

inductive IsNumber : List Char → Prop where
  | number (negative : Bool) {whole fraction power : List Char} (hwhole : IsInt whole)
      (hfraction : IsFraction fraction) (hpower : IsPower power) :
      IsNumber (signed negative (whole ++ fraction ++ power))

def IsHex (c : Char) : Prop :=
  '0' ≤ c ∧ c ≤ '9' ∨ 'a' ≤ c ∧ c ≤ 'f' ∨ 'A' ≤ c ∧ c ≤ 'F'

/-- What stands between the quotes of a string. -/
inductive IsChars : List Char → Prop where
  | none : IsChars []
  | plain {c : Char} {w : List Char} (hc : 0x20 ≤ c.toNat) (hquote : c ≠ '"') (hback : c ≠ '\\')
      (h : IsChars w) : IsChars (c :: w)
  | escape {c : Char} {w : List Char} (hc : c ∈ ['"', '\\', '/', 'b', 'f', 'n', 'r', 't'])
      (h : IsChars w) : IsChars ('\\' :: c :: w)
  | unit {ds w : List Char} (hlength : ds.length = 4) (hds : ∀ d ∈ ds, IsHex d) (h : IsChars w) :
      IsChars ('\\' :: 'u' :: (ds ++ w))

inductive IsString : List Char → Prop where
  | quoted {w : List Char} (h : IsChars w) : IsString ('"' :: (w ++ ['"']))

/-- What stands in brackets is items and in braces members, each with the blanks around it. -/
inductive Symbol where
  | value
  | items
  | members

inductive Derives : Symbol → List Char → Prop where
  | name {w : List Char} (h : w ∈ ["null".toList, "true".toList, "false".toList]) : Derives .value w
  | number {w : List Char} (h : IsNumber w) : Derives .value w
  | string {w : List Char} (h : IsString w) : Derives .value w
  | emptyArray {b : List Char} (hb : IsBlank b) : Derives .value ('[' :: (b ++ [']']))
  | array {w : List Char} (h : Derives .items w) : Derives .value ('[' :: (w ++ [']']))
  | emptyObject {b : List Char} (hb : IsBlank b) : Derives .value ('\x7b' :: (b ++ ['\x7d']))
  | object {w : List Char} (h : Derives .members w) : Derives .value ('\x7b' :: (w ++ ['\x7d']))
  | item {b w b' : List Char} (hb : IsBlank b) (h : Derives .value w) (hb' : IsBlank b') :
      Derives .items (b ++ w ++ b')
  | items {w w' : List Char} (h : Derives .items w) (h' : Derives .items w') :
      Derives .items (w ++ ',' :: w')
  | member {b key b' b'' w e : List Char} (hb : IsBlank b) (hkey : IsString key) (hb' : IsBlank b')
      (hb'' : IsBlank b'') (h : Derives .value w) (he : IsBlank e) :
      Derives .members (b ++ key ++ b' ++ ':' :: (b'' ++ w ++ e))
  | members {w w' : List Char} (h : Derives .members w) (h' : Derives .members w') :
      Derives .members (w ++ ',' :: w')

/-- The text is a value with blanks around it. -/
def IsText (cs : List Char) : Prop :=
  ∃ b w b', IsBlank b ∧ Derives .value w ∧ IsBlank b' ∧ cs = b ++ w ++ b'

section Words

/-- A letter of `Infinity` or `NaN` that no name has. -/
def isLoud (c : Char) : Bool := c == 'I' || c == 'N'

/-- Such a letter stands outside of strings. The text may start inside a string. -/
def hasWord : Bool → List Char → Bool
  | _, [] => false
  | true, '\\' :: _ :: rest => hasWord true rest
  | true, c :: rest => hasWord (c != '"') rest
  | false, c :: rest => isLoud c || hasWord (c == '"') rest

/-- No such letter stands outside of strings, nor does a string go on behind the text. -/
def Silent (w : List Char) : Prop := ∀ y, hasWord false (w ++ y) = hasWord false y

theorem Silent.append {w w' : List Char} (h : Silent w) (h' : Silent w') : Silent (w ++ w') := by
  intro y
  rw [List.append_assoc, h, h']

theorem silent_nil : Silent [] := fun _ => rfl

theorem Silent.cons {c : Char} {w : List Char} (hquote : c ≠ '"') (hloud : isLoud c = false)
    (h : Silent w) : Silent (c :: w) := by
  intro y
  have hclosed : (c == '"') = false := beq_false_of_ne hquote
  rw [List.cons_append, hasWord, hloud, hclosed, Bool.false_or, h]

theorem silent_of_forall {w : List Char} (h : ∀ c ∈ w, c ≠ '"' ∧ isLoud c = false) : Silent w := by
  induction w with
  | nil => exact silent_nil
  | cons c rest ih =>
    obtain ⟨⟨hquote, hloud⟩, hrest⟩ := List.forall_mem_cons.mp h
    exact .cons hquote hloud (ih hrest)

theorem silent_of_all {w : List Char} (h : w.all (fun c => c != '"' && !isLoud c) = true) :
    Silent w := by
  refine silent_of_forall fun c hc => ?_
  have hc := List.all_eq_true.mp h c hc
  rwa [Bool.and_eq_true, bne_iff_ne, Bool.not_eq_true'] at hc

theorem IsBlank.silent {w : List Char} (h : IsBlank w) : Silent w := by
  refine silent_of_forall fun c hc => ?_
  have hblank := h c hc
  simp only [isBlank, Bool.or_eq_true, beq_iff_eq, or_assoc] at hblank
  rcases hblank with rfl | rfl | rfl | rfl <;> decide

theorem silent_digits {ds : List Char} (h : ∀ d ∈ ds, d.isDigit = true) : Silent ds := by
  refine silent_of_forall fun d hd => ?_
  have hdigit := h d hd
  constructor
  · rintro rfl
    cases hdigit
  · rw [isLoud, Bool.or_eq_false_iff, beq_eq_false_iff_ne, beq_eq_false_iff_ne]
    constructor <;> rintro rfl <;> cases hdigit

theorem IsInt.silent {w : List Char} (h : IsInt w) : Silent w := by
  rcases h with rfl | hwhole
  · exact silent_of_all rfl
  · exact silent_digits hwhole.digits

theorem IsFraction.silent {w : List Char} (h : IsFraction w) : Silent w := by
  cases h with
  | none => exact silent_nil
  | places hds => exact .cons (by decide) (by decide) (silent_digits hds.2)

theorem IsPower.silent {w : List Char} (h : IsPower w) : Silent w := by
  cases h with
  | none => exact silent_nil
  | @power e sign ds he hsign hds =>
    have hsign : Silent sign := by
      simp only [List.mem_cons, List.not_mem_nil, or_false] at hsign
      rcases hsign with rfl | rfl | rfl <;> exact silent_of_all rfl
    have htail := hsign.append (silent_digits hds.2)
    rcases he with rfl | rfl <;> exact .cons (by decide) (by decide) htail

theorem Silent.signed {w : List Char} (h : Silent w) (negative : Bool) :
    Silent (signed negative w) := by
  cases negative with
  | true => exact .cons (by decide) (by decide) h
  | false => exact h

theorem IsNumber.silent {w : List Char} (h : IsNumber w) : Silent w := by
  obtain ⟨negative, hwhole, hfraction, hpower⟩ := h
  exact ((hwhole.silent.append hfraction.silent).append hpower.silent).signed negative

theorem hasWord_plain {c : Char} (hquote : c ≠ '"') (hback : c ≠ '\\') (y : List Char) :
    hasWord true (c :: y) = hasWord true y := by
  have hopen : (c != '"') = true := bne_iff_ne.mpr hquote
  rw [hasWord, hopen]
  exact fun _ _ h _ => hback h

theorem IsHex.plain {d : Char} (h : IsHex d) : d ≠ '"' ∧ d ≠ '\\' := by
  constructor <;>
  · rintro rfl
    revert h
    unfold IsHex
    decide

theorem hasWord_digits {ds : List Char} (h : ∀ d ∈ ds, IsHex d) (y : List Char) :
    hasWord true (ds ++ y) = hasWord true y := by
  induction ds with
  | nil => rfl
  | cons d rest ih =>
    obtain ⟨hd, hrest⟩ := List.forall_mem_cons.mp h
    rw [List.cons_append, hasWord_plain hd.plain.1 hd.plain.2, ih hrest]

theorem IsChars.hasWord {w : List Char} (h : IsChars w) (y : List Char) :
    hasWord true (w ++ '"' :: y) = Json.hasWord false y := by
  induction h with
  | none => rfl
  | plain hc hquote hback h ih => rw [List.cons_append, hasWord_plain hquote hback, ih]
  | escape hc h ih => exact ih
  | unit hlength hds h ih =>
    rw [List.cons_append, List.cons_append, List.append_assoc, Json.hasWord, hasWord_digits hds, ih]

theorem IsString.silent {w : List Char} (h : IsString w) : Silent w := by
  obtain ⟨h⟩ := h
  intro y
  rw [List.cons_append, List.append_assoc]
  exact h.hasWord y

theorem Derives.silent {s : Symbol} {w : List Char} (h : Derives s w) : Silent w := by
  induction h with
  | name h =>
    simp only [List.mem_cons, List.not_mem_nil, or_false] at h
    rcases h with rfl | rfl | rfl <;> exact silent_of_all rfl
  | number h => exact h.silent
  | string h => exact h.silent
  | emptyArray hb | emptyObject hb =>
    exact .cons (by decide) (by decide) (.append hb.silent (silent_of_all rfl))
  | array h ih | object h ih =>
    exact .cons (by decide) (by decide) (.append ih (silent_of_all rfl))
  | item hb h hb' ih => exact .append (.append hb.silent ih) hb'.silent
  | items h h' ih ih' | members h h' ih ih' => exact .append ih (.cons (by decide) (by decide) ih')
  | member hb hkey hb' hb'' h he ih =>
    refine .append (.append (.append hb.silent hkey.silent) hb'.silent) ?_
    exact .cons (by decide) (by decide) (.append (.append hb''.silent ih) he.silent)

/-- A text of the grammar has no such letter outside of strings. -/
theorem IsText.hasWord {cs : List Char} (h : IsText cs) : hasWord false cs = false := by
  obtain ⟨b, w, b', hb, hw, hb', rfl⟩ := h
  have hsilent := ((hb.silent.append hw.silent).append hb'.silent) []
  rwa [List.append_nil] at hsilent

end Words

end ServerUi.Json
