import ServerUi.Proofs.Json.Doubles
import ServerUi.Proofs.Json.Escapes
import ServerUi.Proofs.Json.Numeral

/-! What is written of a value. It is read back as the value, bare words included; and it is a text
of the grammar exactly if the value has no number that only a bare word stands for. -/

namespace ServerUi

namespace Json

/-- The doubles in the value have a property, its whole numbers are short enough to be read, and no
object has two members of one name. -/
inductive Writable (P : Double → Prop) : Json → Prop where
  | null : Writable P .null
  | bool (b : Bool) : Writable P (.bool b)
  | int {n : Int} (h : n.natAbs < tenPower integerDigitLimit) : Writable P (.int n)
  | float {x : Double} (h : P x) : Writable P (.float x)
  | str (s : String) : Writable P (.str s)
  | arr {items : List Json} (h : ∀ v ∈ items, Writable P v) : Writable P (.arr items)
  | obj {members : Config} (hnames : (members.map Prod.fst).Nodup)
      (h : ∀ m ∈ members, Writable P m.2) : Writable P (.obj members)

section Layouts

theorem isBlank_nil : IsBlank [] := nofun

theorem isBlank_space : IsBlank [' '] := isBlank_singleton rfl

theorem isBlank_gap (layout : Layout) : IsBlank layout.gap := by
  cases layout with
  | line => exact nofun
  | depth n =>
    refine List.forall_mem_cons.mpr ⟨rfl, fun c hc => ?_⟩
    rw [(List.mem_replicate.mp hc).2]
    rfl

theorem exists_comma (layout : Layout) : ∃ b, IsBlank b ∧ layout.comma = ',' :: b := by
  cases layout with
  | line => exact ⟨[' '], isBlank_space, rfl⟩
  | depth n => exact ⟨_, isBlank_gap (.depth n), rfl⟩

theorem write_array (layout : Layout) (v : Json) (rest : List Json) :
    write layout (.arr (v :: rest)) = '[' :: (layout.deeper.gap ++ (write layout.deeper v ++
      (writeItems layout.deeper rest ++ (layout.gap ++ [']'])))) := by
  simp only [write, List.cons_append, List.append_assoc]

theorem write_object (layout : Layout) (m : String × Json) (rest : Config) :
    write layout (.obj (m :: rest)) = '\x7b' :: (layout.deeper.gap ++ (stringText m.1 ++
      (':' :: ' ' :: (write layout.deeper m.2 ++
        (writeMembers layout.deeper rest ++ (layout.gap ++ ['\x7d'])))))) := by
  simp only [write, List.cons_append, List.append_assoc]

theorem writeItems_cons (layout : Layout) (v : Json) (rest : List Json) :
    writeItems layout (v :: rest) =
      layout.comma ++ (write layout v ++ writeItems layout rest) := by
  rw [writeItems, List.append_assoc]

theorem writeMembers_cons (layout : Layout) (m : String × Json) (rest : Config) :
    writeMembers layout (m :: rest) = layout.comma ++ (stringText m.1 ++
      (':' :: ' ' :: (write layout m.2 ++ writeMembers layout rest))) := by
  simp only [writeMembers, List.cons_append, List.append_assoc]

end Layouts

section Reading

theorem stringText_append (s : String) (y : List Char) :
    stringText s ++ y = '"' :: (s.toList.flatMap escapedChar ++ '"' :: y) := by
  simp only [stringText, List.cons_append, List.append_assoc, List.nil_append]

/-- A character that is not taken for something else in front of a value. -/
def Begins (c : Char) : Prop := isBlank c = false ∧ c ≠ ']' ∧ c ≠ '\ufeff'

instance : DecidablePred Begins := fun _ => inferInstanceAs (Decidable (_ ∧ _))

theorem begins_digit {c : Char} (h : c.isDigit = true) : Begins c := by
  refine ⟨?_, ?_, ?_⟩
  · rw [Bool.eq_false_iff]
    intro hblank
    simp only [isBlank, Bool.or_eq_true, beq_iff_eq, or_assoc] at hblank
    rcases hblank with rfl | rfl | rfl | rfl <;> cases h
  all_goals
    rintro rfl
    cases h

/-- The text is read as the value, with two steps for each character, up to what closes a number. -/
structure Reads (w : List Char) (v : Json) : Prop where
  ne_nil : w ≠ []
  begins : ∀ c ∈ w.head?, Begins c
  reads : ∀ fuel y, 2 * w.length ≤ fuel → Closes y → readValue fuel (w ++ y) = .ok (v, y)

theorem Reads.skipBlanks {w : List Char} {v : Json} (h : Reads w v) {b : List Char}
    (hb : IsBlank b) (y : List Char) : skipBlanks (b ++ (w ++ y)) = w ++ y := by
  refine skipBlanks_append hb fun c hc => ?_
  rw [List.head?_append_of_ne_nil _ h.ne_nil] at hc
  exact (h.begins c hc).1

theorem Reads.of_succ {c : Char} {w : List Char} {v : Json}
    (hc : Begins c) (h : ∀ fuel y, 2 * w.length + 1 ≤ fuel → Closes y →
      readValue (fuel + 1) (c :: (w ++ y)) = .ok (v, y)) : Reads (c :: w) v where
  ne_nil := List.cons_ne_nil _ _
  begins := by
    rintro _ ⟨⟩
    exact hc
  reads := by
    intro fuel y hfuel hy
    rw [List.length_cons] at hfuel
    obtain ⟨k, rfl⟩ : ∃ k, fuel = k + 1 := ⟨fuel - 1, by omega⟩
    exact h k y (by omega) hy

theorem reads_word {word : String} {v : Json} (h : (word, v) ∈ words) : Reads word.toList v := by
  have hplain : ∀ m ∈ words, m.1.toList.head?.all (fun c => decide (Begins c)) = true := by decide
  obtain ⟨c, w, hword, -, hopens, -, hread⟩ := words_toList h
  have hc := hplain _ h
  rw [hword, List.head?_cons, Option.all_some, decide_eq_true_eq] at hc
  rw [hword]
  refine .of_succ hc fun fuel y _ _ => ?_
  rw [readValue_bare (by rintro _ ⟨⟩; exact hopens), ← List.cons_append, hread]
  rfl

theorem WritesNumber.reads_value {w : List Char} {v : Json} (h : WritesNumber w v) : Reads w v := by
  obtain ⟨c, rest, rfl, hc⟩ : ∃ c rest, w = c :: rest ∧ Begins c := by
    obtain ⟨negative, hwhole, -, -⟩ := h.isNumber
    obtain ⟨hne, hdigits⟩ := hwhole.digits
    cases negative with
    | true => exact ⟨_, _, rfl, by decide⟩
    | false =>
      obtain ⟨d, ds, rfl⟩ := List.exists_cons_of_ne_nil hne
      exact ⟨d, _, rfl, begins_digit (hdigits d List.mem_cons_self)⟩
  exact .of_succ hc fun fuel y _ hy => h.reads fuel hy

theorem reads_float (x : Double) : Reads (floatText x) (.float x) := by
  cases x with
  | finite negative units hshort hsmall =>
    exact (writesNumber_finite negative hshort hsmall).reads_value
  | infinite negative =>
    cases negative with
    | true => exact @reads_word "-Infinity" _ (by simp [words])
    | false => exact @reads_word "Infinity" _ (by simp [words])
  | nan => exact @reads_word "NaN" _ (by simp [words])

theorem reads_string (s : String) : Reads (stringText s) (.str s) := by
  refine .of_succ (by decide) fun fuel y _ _ => ?_
  change readValue (fuel + 1) (stringText s ++ y) = _
  rw [stringText_append, readValue_string, readString_stringText]
  rfl

variable {layout : Layout}

theorem skipBlanks_cons {c : Char} (hc : isBlank c = false) (y : List Char) :
    skipBlanks (c :: y) = c :: y :=
  @skipBlanks_append_cons [] nofun c hc y

theorem readItems_written {v : Json} {rest : List Json}
    (h : ∀ u ∈ v :: rest, Reads (write layout u) u) {gap : List Char} (hgap : IsBlank gap)
    {fuel : Nat} {y : List Char}
    (hfuel : 2 * ((write layout v).length + (writeItems layout rest).length + gap.length + 1) ≤
      fuel) :
    readItems fuel (write layout v ++ (writeItems layout rest ++ (gap ++ ']' :: y))) =
      .ok (v :: rest, y) := by
  induction rest generalizing v fuel with
  | nil =>
    obtain ⟨k, rfl⟩ : ∃ k, fuel = k + 1 := ⟨fuel - 1, by omega⟩
    have hv := h v List.mem_cons_self
    refine readItems_last (hv.reads k _ ?_ ?_) (skipBlanks_append_cons hgap (by decide) y)
    · omega
    · exact closes_blanks hgap (by simp)
  | cons u rest ih =>
    obtain ⟨k, rfl⟩ : ∃ k, fuel = k + 1 := ⟨fuel - 1, by omega⟩
    obtain ⟨hv, hrest⟩ := List.forall_mem_cons.mp h
    obtain ⟨b, hb, hcomma⟩ := exists_comma layout
    rw [writeItems_cons, hcomma] at hfuel ⊢
    simp only [List.length_append, List.length_cons] at hfuel
    simp only [List.cons_append, List.append_assoc]
    have hread := hv.reads k
      (',' :: (b ++ (write layout u ++ (writeItems layout rest ++ (gap ++ ']' :: y)))))
      (by omega) (by simp)
    rw [readItems_more hread (skipBlanks_cons (by decide) _),
      (hrest u List.mem_cons_self).skipBlanks hb, ih hrest (by omega)]
    rfl

theorem put_of_notMem {found : Config} {key : String} (h : key ∉ found.map Prod.fst) (v : Json) :
    found.put key v = found ++ [(key, v)] := by
  induction found with
  | nil => rfl
  | cons m rest ih =>
    obtain ⟨k, u⟩ := m
    obtain ⟨hk, hrest⟩ := not_or.mp (fun hmem => h (List.mem_cons.mpr hmem))
    rw [Config.put, if_neg (Ne.symm hk), ih hrest, List.cons_append]

theorem Reads.behind_space {w y : List Char} {v : Json} (h : Reads w v) {fuel : Nat}
    (hfuel : 2 * w.length ≤ fuel) (hy : Closes y) :
    readValue fuel (Json.skipBlanks (' ' :: (w ++ y))) = .ok (v, y) := by
  have hskip : Json.skipBlanks (' ' :: (w ++ y)) = w ++ y := h.skipBlanks isBlank_space y
  rw [hskip, h.reads fuel y hfuel hy]

section Member

theorem name_notMem {found rest : Config} {m : String × Json}
    (h : ((found ++ m :: rest).map Prod.fst).Nodup) : m.1 ∉ found.map Prod.fst := by
  rw [List.map_append, List.nodup_append] at h
  exact fun hmem => h.2.2 _ hmem _ List.mem_cons_self rfl

variable {found : Config} {key : String} {w behind more : List Char} {v : Json} {fuel : Nat}

theorem readMembers_end (hv : Reads w v) (hnew : key ∉ found.map Prod.fst)
    (hfuel : 2 * w.length ≤ fuel) (hbehind : Closes behind)
    (hend : skipBlanks behind = '\x7d' :: more) :
    readMembers (fuel + 1) found (stringText key ++ (':' :: ' ' :: (w ++ behind))) =
      .ok (found ++ [(key, v)], more) := by
  rw [stringText_append, ← put_of_notMem hnew]
  exact readMembers_last (readString_stringText _ _ _) (skipBlanks_cons (by decide) _)
    (hv.behind_space hfuel hbehind) hend

theorem readMembers_next (hv : Reads w v) (hnew : key ∉ found.map Prod.fst)
    (hfuel : 2 * w.length ≤ fuel) (hbehind : Closes behind)
    (hnext : skipBlanks behind = ',' :: more) :
    readMembers (fuel + 1) found (stringText key ++ (':' :: ' ' :: (w ++ behind))) =
      readMembers fuel (found ++ [(key, v)]) (skipBlanks more) := by
  rw [stringText_append, ← put_of_notMem hnew]
  exact readMembers_more (readString_stringText _ _ _) (skipBlanks_cons (by decide) _)
    (hv.behind_space hfuel hbehind) hnext

end Member

/-- The names that are still to come are none of those found. -/
theorem readMembers_written {m : String × Json} {rest found : Config}
    (h : ∀ n ∈ m :: rest, Reads (write layout n.2) n.2)
    (hnames : ((found ++ m :: rest).map Prod.fst).Nodup) {gap : List Char} (hgap : IsBlank gap)
    {fuel : Nat} {y : List Char}
    (hfuel : 2 * ((write layout m.2).length + (writeMembers layout rest).length + gap.length + 1) ≤
      fuel) :
    readMembers fuel found (stringText m.1 ++ (':' :: ' ' :: (write layout m.2 ++
        (writeMembers layout rest ++ (gap ++ '\x7d' :: y))))) =
      .ok (found ++ m :: rest, y) := by
  induction rest generalizing m found fuel with
  | nil =>
    obtain ⟨k, rfl⟩ : ∃ k, fuel = k + 1 := ⟨fuel - 1, by omega⟩
    exact readMembers_end (h m List.mem_cons_self) (name_notMem hnames) (by omega)
      (closes_blanks hgap (by simp)) (skipBlanks_append_cons hgap (by decide) y)
  | cons n rest ih =>
    obtain ⟨k, rfl⟩ : ∃ k, fuel = k + 1 := ⟨fuel - 1, by omega⟩
    obtain ⟨hv, hrest⟩ := List.forall_mem_cons.mp h
    obtain ⟨b, hb, hcomma⟩ := exists_comma layout
    have hnext : found ++ m :: n :: rest = found ++ [m] ++ n :: rest := by
      rw [List.append_assoc, List.singleton_append]
    have hnew := name_notMem hnames
    rw [hnext] at hnames ⊢
    rw [writeMembers_cons, hcomma] at hfuel ⊢
    simp only [List.length_append, List.length_cons] at hfuel
    simp only [List.cons_append, List.append_assoc]
    rw [readMembers_next hv hnew (by omega) (by simp) (skipBlanks_cons (by decide) _),
      (reads_string n.1).skipBlanks hb, ih hrest hnames (by omega)]
    simp only [List.append_assoc, List.cons_append, List.nil_append]

theorem reads_array {v : Json} {rest : List Json}
    (h : ∀ u ∈ v :: rest, Reads (write layout.deeper u) u) :
    Reads (write layout (.arr (v :: rest))) (.arr (v :: rest)) := by
  have hv := h v List.mem_cons_self
  rw [write_array]
  refine .of_succ (by decide) fun fuel y hfuel _ => ?_
  simp only [List.length_append, List.length_singleton] at hfuel
  have hskip (z : List Char) : skipBlanks (layout.deeper.gap ++ (write layout.deeper v ++ z)) =
      write layout.deeper v ++ z := hv.skipBlanks (isBlank_gap _) z
  have hopen (z : List Char) : (write layout.deeper v ++ z).head? ≠ some ']' := by
    rw [List.head?_append_of_ne_nil _ hv.ne_nil]
    exact fun hhead => (hv.begins _ hhead).2.1 rfl
  simp only [List.append_assoc, List.singleton_append]
  rw [readValue_array (by rw [hskip]; exact hopen _), hskip,
    readItems_written h (isBlank_gap layout) (by omega)]
  rfl

theorem reads_object {m : String × Json} {rest : Config}
    (h : ∀ n ∈ m :: rest, Reads (write layout.deeper n.2) n.2)
    (hnames : ((m :: rest).map Prod.fst).Nodup) :
    Reads (write layout (.obj (m :: rest))) (.obj (m :: rest)) := by
  rw [write_object]
  refine .of_succ (by decide) fun fuel y hfuel _ => ?_
  simp only [List.length_append, List.length_cons] at hfuel
  have hskip (z : List Char) : skipBlanks (layout.deeper.gap ++ (stringText m.1 ++ z)) =
      stringText m.1 ++ z := (reads_string m.1).skipBlanks (isBlank_gap _) z
  have hopen (z : List Char) : (stringText m.1 ++ z).head? ≠ some '\x7d' := by
    rintro ⟨⟩
  simp only [List.append_assoc, List.cons_append]
  rw [readValue_object (by rw [hskip]; exact hopen _), hskip,
    readMembers_written h hnames (isBlank_gap layout) (by omega)]
  rfl

/-- A value that can be written is read back. -/
theorem Writable.reads {P : Double → Prop} {v : Json} (h : Writable P v) (layout : Layout) :
    Reads (write layout v) v := by
  induction h generalizing layout with
  | null => exact @reads_word "null" _ (by simp [words])
  | bool b =>
    cases b with
    | true => exact @reads_word "true" _ (by simp [words])
    | false => exact @reads_word "false" _ (by simp [words])
  | int h => exact (writesNumber_int h).reads_value
  | float => exact reads_float _
  | str s => exact reads_string s
  | @arr items h ih =>
    cases items with
    | nil => exact .of_succ (by decide) fun fuel y _ _ => readValue_empty_array rfl
    | cons v rest => exact reads_array fun u hu => ih u hu layout.deeper
  | @obj members hnames h ih =>
    cases members with
    | nil => exact .of_succ (by decide) fun fuel y _ _ => readValue_empty_object rfl
    | cons m rest => exact reads_object (fun n hn => ih n hn layout.deeper) hnames

/-- What is written of a value and ends with blanks is read back as a whole text. -/
theorem Writable.readText {P : Double → Prop} {v : Json} (h : Writable P v) (layout : Layout)
    {blanks : List Char} (hblanks : IsBlank blanks) :
    readText (write layout v ++ blanks) = .ok v := by
  have hreads := h.reads layout
  have hmark : (write layout v ++ blanks).head? ≠ some '\ufeff' := by
    rw [List.head?_append_of_ne_nil _ hreads.ne_nil]
    exact fun hhead => (hreads.begins _ hhead).2.2 rfl
  have hskip : skipBlanks (write layout v ++ blanks) = write layout v ++ blanks :=
    hreads.skipBlanks isBlank_nil blanks
  have hclosed : Closes blanks := by
    have hend := @closes_blanks _ hblanks [] nofun
    rwa [List.append_nil] at hend
  have hend : skipBlanks blanks = [] := by
    have hnone := @skipBlanks_append _ [] hblanks nofun
    rwa [List.append_nil] at hnone
  have hvalue := hreads.reads (2 * (write layout v ++ blanks).length + 2) blanks
    (by rw [List.length_append]; omega) hclosed
  unfold Json.readText
  split
  · next heq => exact absurd (congrArg List.head? heq) hmark
  · rw [hskip, hvalue]
    dsimp only [bind, Except.bind]
    rw [hend]
    rfl

end Reading

section Grammar

variable {layout : Layout} {lead gap : List Char}

end Grammar

section Words

variable {layout : Layout}

/-- Whether a letter that only bare words have stands in the text, which ends outside of strings. -/
def Voiced (w : List Char) (loud : Bool) : Prop :=
  ∀ y, hasWord false (w ++ y) = (loud || hasWord false y)

theorem Voiced.append {w w' : List Char} {loud loud' : Bool} (h : Voiced w loud)
    (h' : Voiced w' loud') : Voiced (w ++ w') (loud || loud') := by
  intro y
  rw [List.append_assoc, h, h', Bool.or_assoc]

/-- Unless such a letter stands in the text, all doubles of the values are finite. -/
def Tells (w : List Char) (values : List Json) : Prop :=
  ∃ loud, Voiced w loud ∧ (loud = false → ∀ v ∈ values, v.Doubles Double.IsFinite)

theorem Tells.append {w w' : List Char} {values values' : List Json} (h : Tells w values)
    (h' : Tells w' values') : Tells (w ++ w') (values ++ values') := by
  obtain ⟨loud, hvoiced, hfinite⟩ := h
  obtain ⟨loud', hvoiced', hfinite'⟩ := h'
  refine ⟨loud || loud', hvoiced.append hvoiced', fun hquiet v hv => ?_⟩
  obtain ⟨hloud, hloud'⟩ := Bool.or_eq_false_iff.mp hquiet
  rcases List.mem_append.mp hv with hv | hv
  · exact hfinite hloud v hv
  · exact hfinite' hloud' v hv

theorem Tells.imp {w : List Char} {values others : List Json} (h : Tells w values)
    (hothers : (∀ v ∈ values, v.Doubles Double.IsFinite) →
      ∀ v ∈ others, v.Doubles Double.IsFinite) : Tells w others := by
  obtain ⟨loud, hvoiced, hfinite⟩ := h
  exact ⟨loud, hvoiced, fun hquiet => hothers (hfinite hquiet)⟩

end Words

end Json

end ServerUi
