import Mathlib.Data.List.Basic
import Mathlib.Data.List.TakeWhile
import Mathlib.Logic.Relation
import ServerUi.File.Path
import ServerUi.Proofs.Except

/-! Where the text of a name leads. Components are removed from it one after another; in whatever
order that is done, what is left in the end is the place of the name. -/

namespace ServerUi

/-- A component that stays, unless one behind it leads back. -/
def Plain (part : String) : Prop := part ≠ "" ∧ part ≠ "." ∧ part ≠ ".."

instance (part : String) : Decidable (Plain part) := inferInstanceAs (Decidable (_ ∧ _ ∧ _))

/-- One removal from the components of an absolute name. -/
inductive Shortens : List String → List String → Prop where
  | empty (front back : List String) : Shortens (front ++ "" :: back) (front ++ back)
  | here (front back : List String) : Shortens (front ++ "." :: back) (front ++ back)
  | above (front back : List String) {part : String} (h : Plain part) :
    Shortens (front ++ part :: ".." :: back) (front ++ back)
  /-- From the root, `..` leads to the root. -/
  | aboveRoot (back : List String) : Shortens (".." :: back) back

def components (s : String) : List String := (s.toList.splitOn '/').map String.ofList

/-- The components of a name seen from a place; an absolute name leaves the place out. -/
def componentsFrom (place : List String) (s : String) : List String :=
  if s.toList.head? = some '/' then components s else place ++ components s

/-- What is left of a name seen from a place when there is nothing more to remove. -/
def LeadsTo (place : List String) (s : String) (goal : List String) : Prop :=
  Relation.ReflTransGen Shortens (componentsFrom place s) goal ∧ ∀ part ∈ goal, Plain part

/-- One component further. -/
def passed (place : List String) (part : String) : List String :=
  if part = "" ∨ part = "." then place else stepInto place part

section Passed

theorem passed_plain {part : String} (h : Plain part) (place : List String) :
    passed place part = place ++ [part] := by
  obtain ⟨hempty, hhere, habove⟩ := h
  simp only [passed, hempty, hhere, or_self, if_false, stepInto, habove]

theorem passed_above (place : List String) : passed place ".." = place.dropLast := rfl

theorem foldl_passed_plain {parts : List String} (h : ∀ part ∈ parts, Plain part)
    (place : List String) : parts.foldl passed place = place ++ parts := by
  induction parts generalizing place with
  | nil => rw [List.foldl_nil, List.append_nil]
  | cons part rest ih =>
    obtain ⟨hpart, hrest⟩ := List.forall_mem_cons.mp h
    rw [List.foldl_cons, passed_plain hpart, ih hrest, List.append_assoc, List.singleton_append]

/-- Whatever is kept along a name is kept at its end. -/
theorem foldl_passed_all {P : String → Prop} {parts place : List String}
    (hplace : ∀ part ∈ place, P part) (hparts : ∀ part ∈ parts, Plain part → P part) :
    ∀ part ∈ parts.foldl passed place, P part := by
  induction parts generalizing place with
  | nil => exact hplace
  | cons part rest ih =>
    obtain ⟨hpart, hrest⟩ := List.forall_mem_cons.mp hparts
    refine ih ?_ hrest
    intro other hother
    unfold passed stepInto at hother
    split at hother
    · exact hplace other hother
    · next hkept =>
      obtain ⟨hempty, hhere⟩ := not_or.mp hkept
      split at hother
      · exact hplace other (List.dropLast_subset place hother)
      · next habove =>
        rcases List.mem_append.mp hother with hold | hnew
        · exact hplace other hold
        · rw [List.mem_singleton.mp hnew]
          exact hpart ⟨hempty, hhere, habove⟩

/-- No removal changes where the components lead. -/
theorem Shortens.foldl_passed {parts shorter : List String} (h : Shortens parts shorter) :
    parts.foldl passed [] = shorter.foldl passed [] := by
  cases h with
  | empty front back =>
    rw [List.foldl_append, List.foldl_append]
    rfl
  | here front back =>
    rw [List.foldl_append, List.foldl_append]
    rfl
  | above front back h =>
    rw [List.foldl_append, List.foldl_append, List.foldl_cons, List.foldl_cons, passed_plain h,
      passed_above, List.dropLast_concat]
  | aboveRoot back => rfl

/-- As long as components follow, they can be removed or stay for good. -/
theorem shortens_foldl_passed {place : List String} (hplace : ∀ part ∈ place, Plain part)
    (parts : List String) :
    Relation.ReflTransGen Shortens (place ++ parts) (parts.foldl passed place) := by
  induction parts generalizing place with
  | nil =>
    rw [List.append_nil]
    exact .refl
  | cons part rest ih =>
    rw [List.foldl_cons]
    by_cases hempty : part = ""
    · subst hempty
      exact .head (.empty place rest) (ih hplace)
    by_cases hhere : part = "."
    · subst hhere
      exact .head (.here place rest) (ih hplace)
    by_cases habove : part = ".."
    · subst habove
      rw [passed_above]
      rcases place.eq_nil_or_concat with rfl | ⟨front, last, rfl⟩
      · exact .head (.aboveRoot rest) (ih hplace)
      · rw [List.concat_eq_append] at hplace ⊢
        obtain ⟨hfront, hlast⟩ := List.forall_mem_append.mp hplace
        rw [List.dropLast_concat, List.append_assoc, List.singleton_append]
        exact .head (.above front rest (hlast last List.mem_cons_self)) (ih hfront)
    · have hpart : Plain part := ⟨hempty, hhere, habove⟩
      have hlonger : ∀ other ∈ place ++ [part], Plain other :=
        List.forall_mem_append.mpr ⟨hplace, List.forall_mem_singleton.mpr hpart⟩
      rw [passed_plain hpart, ← List.singleton_append, ← List.append_assoc]
      exact ih hlonger

end Passed

theorem pieces_eq_splitOn (separator : Char) (cs : List Char) :
    pieces separator cs = cs.splitOn separator := by
  induction cs with
  | nil => rfl
  | cons c rest ih =>
    have hcons : (c :: rest).splitOn separator =
        if c == separator then [] :: rest.splitOn separator
        else (rest.splitOn separator).modifyHead (c :: ·) :=
      List.splitOnP_cons_eq_if_modifyHead c rest
    rw [hcons, pieces, ih]
    by_cases hc : c = separator
    · rw [if_pos hc, if_pos (beq_iff_eq.mpr hc)]
    · rw [if_neg hc, if_neg (by rwa [beq_iff_eq])]
      cases h : rest.splitOn separator with
      | nil => exact absurd h (List.splitOnP_ne_nil _ _)
      | cons piece more => rfl

/-- The pieces hold no separator, and nothing that the text does not hold. -/
theorem mem_splitOn {separator c : Char} {cs piece : List Char}
    (hpiece : piece ∈ cs.splitOn separator) (hc : c ∈ piece) : c ∈ cs ∧ c ≠ separator := by
  rw [← pieces_eq_splitOn] at hpiece
  induction cs generalizing piece with
  | nil =>
    rw [List.mem_singleton.mp hpiece] at hc
    exact absurd hc List.not_mem_nil
  | cons first rest ih =>
    have hrest {p : List Char} (hp : p ∈ pieces separator rest) (hcp : c ∈ p) :
        c ∈ first :: rest ∧ c ≠ separator :=
      (ih hp hcp).imp_left (List.mem_cons_of_mem first)
    rw [pieces] at hpiece
    split at hpiece
    · rcases List.mem_cons.mp hpiece with rfl | hlater
      · exact absurd hc List.not_mem_nil
      · exact hrest hlater hc
    · next hne =>
      cases hpieces : pieces separator rest with
      | nil =>
        rw [hpieces] at hpiece
        rw [List.mem_singleton.mp hpiece] at hc
        rw [List.mem_singleton.mp hc]
        exact ⟨List.mem_cons_self, hne⟩
      | cons p more =>
        rw [hpieces] at hpiece hrest
        rcases List.mem_cons.mp hpiece with rfl | hlater
        · rcases List.mem_cons.mp hc with rfl | hc
          · exact ⟨List.mem_cons_self, hne⟩
          · exact hrest List.mem_cons_self hc
        · exact hrest (List.mem_cons_of_mem p hlater) hc

/-- Every character but the separators is in one of the pieces. -/
theorem exists_mem_splitOn {separator c : Char} {cs : List Char} (hc : c ∈ cs)
    (hne : c ≠ separator) : ∃ piece ∈ cs.splitOn separator, c ∈ piece := by
  rw [← pieces_eq_splitOn]
  induction cs with
  | nil => exact absurd hc List.not_mem_nil
  | cons first rest ih =>
    rw [pieces]
    split
    · next hfirst =>
      have hrest : c ∈ rest := List.mem_of_ne_of_mem (hfirst ▸ hne) hc
      obtain ⟨piece, hpiece, hmem⟩ := ih hrest
      exact ⟨piece, List.mem_cons_of_mem [] hpiece, hmem⟩
    · rcases List.mem_cons.mp hc with rfl | hrest
      · split
        · exact ⟨[c], List.mem_cons_self, List.mem_cons_self⟩
        · exact ⟨_, List.mem_cons_self, List.mem_cons_self⟩
      · obtain ⟨piece, hpiece, hmem⟩ := ih hrest
        split
        · next hnil =>
          rw [hnil] at hpiece
          exact absurd hpiece List.not_mem_nil
        · next p more hpieces =>
          rw [hpieces] at hpiece
          rcases List.mem_cons.mp hpiece with rfl | hlater
          · exact ⟨_, List.mem_cons_self, List.mem_cons_of_mem first hmem⟩
          · exact ⟨piece, List.mem_cons_of_mem _ hlater, hmem⟩

/-- Something that an entry of a directory can be called. -/
structure IsName (part : String) : Prop where
  plain : Plain part
  slashless : '/' ∉ part.toList
  nullless : '\x00' ∉ part.toList

instance (part : String) : Decidable (IsName part) :=
  decidable_of_iff (Plain part ∧ '/' ∉ part.toList ∧ '\x00' ∉ part.toList)
    ⟨fun ⟨plain, slashless, nullless⟩ => ⟨plain, slashless, nullless⟩,
      fun h => ⟨h.plain, h.slashless, h.nullless⟩⟩

theorem slashless_of_mem {s part : String} (h : part ∈ components s) : '/' ∉ part.toList := by
  obtain ⟨piece, hpiece, rfl⟩ := List.mem_map.mp h
  rw [String.toList_ofList]
  exact fun hslash => (mem_splitOn hpiece hslash).2 rfl

theorem components_slash (s : String) : components ("/" ++ s) = "" :: components s := by
  rw [components, String.toList_append, components, List.splitOn]
  exact congrArg (List.map String.ofList) (List.splitOnP_cons_eq_if_modifyHead '/' s.toList)

theorem components_intercalate {parts : List String} (hne : parts ≠ [])
    (hparts : ∀ part ∈ parts, '/' ∉ part.toList) : components ("/".intercalate parts) = parts := by
  have hlists : ∀ cs ∈ parts.map String.toList, '/' ∉ cs := List.forall_mem_map.mpr hparts
  have hmap : parts.map String.toList ≠ [] := by simpa using hne
  have hsplit := List.splitOn_intercalate '/' hlists hmap
  rw [components, String.toList_intercalate]
  change (List.splitOn '/' (['/'].intercalate (parts.map String.toList))).map String.ofList = parts
  rw [hsplit, List.map_map]
  exact (List.map_congr_left fun part _ => String.ofList_toList).trans (List.map_id _)

namespace PathName

theorem ofString_parts (s : String) :
    (ofString s).parts = (components s).filter fun part => part ≠ "" ∧ part ≠ "." := by
  have hparts : (ofString s).parts =
      ((s.toList.splitOn '/').filter fun piece => piece != [] && piece != ['.']).map
        String.ofList := by
    rw [← pieces_eq_splitOn]
    rfl
  rw [hparts, components, List.filter_map]
  congr 2
  funext piece
  have hempty : String.ofList piece = "" ↔ piece = [] := by
    rw [← String.toList_inj, String.toList_ofList]
    rfl
  have hhere : String.ofList piece = "." ↔ piece = ['.'] := by
    rw [← String.toList_inj, String.toList_ofList]
    rfl
  apply Bool.eq_iff_iff.mpr
  simp [hempty, hhere]

theorem isAbsolute_ofString (s : String) :
    (ofString s).isAbsolute = true ↔ s.toList.head? = some '/' := by
  rw [ofString, ofChars, isAbsolute]
  cases s.toList with
  | nil => decide
  | cons c rest =>
    by_cases hc : c = '/'
    · subst hc
      simp only [List.takeWhile_cons, beq_self_eq_true, if_true, List.length_cons, List.head?_cons]
      split
      · omega
      · decide
      · decide
    · simp only [List.takeWhile_cons, beq_eq_false_iff_ne.mpr hc, Bool.false_eq_true, if_false,
        List.length_nil, List.head?_cons, Option.some.injEq, hc, iff_false]
      decide

theorem place_ofString (cwd : List String) (s : String) :
    (ofString s).place cwd =
      (components s).foldl passed (if s.toList.head? = some '/' then [] else cwd) := by
  have hstart : (if (ofString s).isAbsolute then [] else cwd) =
      if s.toList.head? = some '/' then [] else cwd := by
    simp only [isAbsolute_ofString]
  rw [place, hstart, ofString_parts, List.foldl_filter]
  congr 1
  funext place part
  rw [passed]
  by_cases hempty : part = ""
  · simp [hempty]
  by_cases hhere : part = "."
  · simp [hhere]
  · simp [hempty, hhere]

theorem hasNull_ofString {s : String} (hs : '\x00' ∉ s.toList) : (ofString s).hasNull = false := by
  rw [hasNull, List.any_eq_false]
  intro part hpart
  rw [ofString_parts] at hpart
  obtain ⟨piece, hpiece, rfl⟩ := List.mem_map.mp (List.mem_filter.mp hpart).1
  rw [List.contains_iff_mem, String.toList_ofList]
  exact fun hnull => hs (mem_splitOn hpiece hnull).1

theorem hasNull_ofString_iff (s : String) : (ofString s).hasNull = true ↔ '\x00' ∈ s.toList := by
  constructor
  · intro h
    by_contra hs
    exact Bool.false_ne_true ((hasNull_ofString hs).symm.trans h)
  · intro hs
    have hslash : '\x00' ≠ '/' := by decide
    obtain ⟨piece, hpiece, hnull⟩ := exists_mem_splitOn hs hslash
    rw [hasNull, List.any_eq_true]
    have hpart {shorter : String} (hshorter : '\x00' ∉ shorter.toList) :
        String.ofList piece ≠ shorter := by
      rintro rfl
      rw [String.toList_ofList] at hshorter
      exact hshorter hnull
    refine ⟨String.ofList piece, ?_, ?_⟩
    · rw [ofString_parts]
      refine List.mem_filter.mpr ⟨List.mem_map_of_mem hpiece, decide_eq_true ⟨?_, ?_⟩⟩
      · exact hpart (by decide)
      · exact hpart (by decide)
    · rw [List.contains_iff_mem, String.toList_ofList]
      exact hnull

/-- Seen from a place of names, a name leads to a place of names. -/
theorem place_names {cwd : List String} (hcwd : ∀ part ∈ cwd, IsName part) {s : String}
    (hs : (ofString s).hasNull = false) : ∀ part ∈ (ofString s).place cwd, IsName part := by
  rw [place_ofString]
  apply foldl_passed_all
  · split
    · exact fun part hpart => absurd hpart List.not_mem_nil
    · exact hcwd
  · intro part hpart hplain
    have hmem : part ∈ (ofString s).parts := by
      rw [ofString_parts]
      exact List.mem_filter.mpr ⟨hpart, decide_eq_true ⟨hplain.1, hplain.2.1⟩⟩
    have hnull := List.any_eq_false.mp hs part hmem
    rw [List.contains_iff_mem] at hnull
    exact ⟨hplain, slashless_of_mem hpart, hnull⟩

section Text

variable {p : PathName} (names : ∀ part ∈ p.parts, IsName part)

include names

/-- The text of a name is read as that name. -/
theorem parts_text : (ofString p.text).parts = p.parts := by
  have hkept : p.parts.filter (fun part => part ≠ "" ∧ part ≠ ".") = p.parts :=
    List.filter_eq_self.mpr fun part hpart =>
      decide_eq_true ⟨(names part hpart).plain.1, (names part hpart).plain.2.1⟩
  have hjoined : (components ("/".intercalate p.parts)).filter
      (fun part => part ≠ "" ∧ part ≠ ".") = p.parts := by
    by_cases hnil : p.parts = []
    · rw [hnil]
      decide
    · rw [components_intercalate hnil fun part hpart => (names part hpart).slashless, hkept]
  rw [ofString_parts, text]
  split
  · split
    · next hnil =>
      rw [List.isEmpty_iff.mp hnil]
      decide
    · exact hjoined
  · rw [components_slash, List.filter_cons_of_neg (by decide)]
    exact hjoined
  · have hslashes : "//" ++ "/".intercalate p.parts = "/" ++ ("/" ++ "/".intercalate p.parts) := by
      rw [← String.append_assoc]
      rfl
    rw [hslashes, components_slash, components_slash, List.filter_cons_of_neg (by decide),
      List.filter_cons_of_neg (by decide)]
    exact hjoined

theorem isAbsolute_text : (ofString p.text).isAbsolute = p.isAbsolute := by
  apply Bool.eq_iff_iff.mpr
  rw [isAbsolute_ofString, isAbsolute, text]
  split
  · next hroot =>
    rw [hroot]
    refine iff_of_false ?_ (by decide)
    split
    · decide
    · next hne =>
      -- A text that starts with a slash has an empty component in front.
      intro hslash
      obtain ⟨rest, hrest⟩ := List.head?_eq_some_iff.mp hslash
      have htext : "/".intercalate p.parts = "/" ++ String.ofList rest := by
        rw [← String.toList_inj, String.toList_append, hrest]
        exact congrArg ('/' :: ·) String.toList_ofList.symm
      have hcomponents := components_intercalate (by simpa using hne)
        fun part hpart => (names part hpart).slashless
      rw [htext, components_slash] at hcomponents
      exact (names "" (hcomponents ▸ List.mem_cons_self)).plain.1 rfl
  · next hroot =>
    rw [hroot, String.toList_append]
    exact iff_of_true rfl rfl
  · next hroot =>
    rw [hroot, String.toList_append]
    exact iff_of_true rfl rfl

theorem place_text (cwd : List String) :
    (ofString p.text).place cwd = (if p.isAbsolute then [] else cwd) ++ p.parts := by
  rw [place, parts_text names, isAbsolute_text names,
    ← foldl_passed_plain fun part hpart => (names part hpart).plain]
  apply List.foldl_ext
  intro place part hpart
  obtain ⟨hempty, hhere, -⟩ := (names part hpart).plain
  rw [passed, if_neg (not_or.mpr ⟨hempty, hhere⟩)]

theorem hasNull_text : (ofString p.text).hasNull = false := by
  rw [hasNull, parts_text names, List.any_eq_false]
  intro part hpart
  rw [List.contains_iff_mem]
  exact (names part hpart).nullless

end Text

end PathName

section Resolve

variable {unencodable : Char → Bool}

namespace PathName

theorem enter_fails_iff {place : List String} {part : String} :
    (∃ fault, enter unencodable place part = .error fault) ↔
      (∃ c ∈ part.toList, unencodable c = true) ∨ '\x00' ∈ part.toList := by
  have hencodable : (part.toList.dropWhile (!unencodable ·)).isEmpty = true ↔
      ¬∃ c ∈ part.toList, unencodable c = true := by
    simp [List.dropWhile_eq_nil_iff]
  rw [enter]
  dsimp only
  by_cases hbad : ∃ c ∈ part.toList, unencodable c = true
  · rw [if_neg (mt hencodable.mp (not_not_intro hbad))]
    exact iff_of_true ⟨_, rfl⟩ (.inl hbad)
  · rw [if_pos (hencodable.mpr hbad), or_iff_right hbad, ← List.contains_iff_mem]
    split
    · next hnull => exact iff_of_true ⟨_, rfl⟩ hnull
    · next hnull => exact iff_of_false (by rintro ⟨_, ⟨⟩⟩) hnull

theorem enter_eq_ok {place goal : List String} {part : String}
    (h : enter unencodable place part = .ok goal) : goal = stepInto place part := by
  rw [enter] at h
  dsimp only at h
  split at h
  · split at h
    · cases h
    · exact (Except.ok.inj h).symm
  · cases h

theorem foldlM_enter_eq_ok {parts place goal : List String}
    (h : parts.foldlM (enter unencodable) place = .ok goal) : goal = parts.foldl stepInto place := by
  induction parts generalizing place with
  | nil => exact (Except.ok.inj h).symm
  | cons part rest ih =>
    obtain ⟨next, hnext, hrest⟩ := bind_eq_ok_iff.mp h
    rw [ih hrest, enter_eq_ok hnext]
    rfl

theorem foldlM_enter_fails_iff {parts place : List String} :
    (∃ fault, parts.foldlM (enter unencodable) place = .error fault) ↔
      ∃ part ∈ parts, (∃ c ∈ part.toList, unencodable c = true) ∨ '\x00' ∈ part.toList := by
  induction parts generalizing place with
  | nil => exact iff_of_false (by rintro ⟨_, ⟨⟩⟩) (by simp)
  | cons part rest ih =>
    rw [List.exists_mem_cons_iff, ← enter_fails_iff, List.foldlM_cons]
    cases hnext : enter unencodable place part with
    | error fault => exact iff_of_true ⟨fault, rfl⟩ (.inl ⟨fault, rfl⟩)
    | ok next =>
      rw [ok_bind, ih, or_iff_right]
      rintro ⟨_, ⟨⟩⟩

variable {cwd : List String} {p : PathName}

theorem resolve_eq_ok {goal : List String} (h : p.resolve unencodable cwd = .ok goal) :
    goal = p.place cwd :=
  foldlM_enter_eq_ok h

/-- A name is resolved, unless it has a character that cannot be encoded or a null character. -/
theorem resolve_fails_iff :
    (∃ fault, p.resolve unencodable cwd = .error fault) ↔
      (∃ part ∈ p.parts, ∃ c ∈ part.toList, unencodable c = true) ∨ p.hasNull = true := by
  rw [resolve, foldlM_enter_fails_iff, hasNull, List.any_eq_true]
  simp only [List.contains_iff_mem, and_or_left, exists_or]

theorem hasNull_of_resolve {goal : List String} (h : p.resolve unencodable cwd = .ok goal) :
    p.hasNull = false := by
  refine Bool.eq_false_iff.mpr fun hnull => ?_
  obtain ⟨fault, hfault⟩ := resolve_fails_iff.mpr (.inr hnull)
  cases h.symm.trans hfault

theorem resolve_of_encodable (hencodable : ∀ c, unencodable c = false) (hnull : p.hasNull = false) :
    p.resolve unencodable cwd = .ok (p.place cwd) := by
  cases hresolve : p.resolve unencodable cwd with
  | ok goal => rw [resolve_eq_ok hresolve]
  | error fault =>
    obtain ⟨part, -, c, -, hc⟩ | htrue := resolve_fails_iff.mp ⟨fault, hresolve⟩
    · cases (hencodable c).symm.trans hc
    · cases hnull.symm.trans htrue

end PathName

end Resolve

/-- A name leads to its place and, however its components are removed, to no other. -/
theorem leadsTo_iff {place : List String} (hplace : ∀ part ∈ place, Plain part) (s : String)
    (goal : List String) : LeadsTo place s goal ↔ goal = (PathName.ofString s).place place := by
  have hfold : (PathName.ofString s).place place = (componentsFrom place s).foldl passed [] := by
    rw [PathName.place_ofString, componentsFrom]
    split
    · rfl
    · rw [List.foldl_append, foldl_passed_plain hplace, List.nil_append]
  rw [hfold]
  constructor
  · rintro ⟨hremoved, hgoal⟩
    -- Every removal keeps where the components lead, so nothing else can be left of them.
    have hsame : (componentsFrom place s).foldl passed [] = goal.foldl passed [] := by
      clear hgoal
      induction hremoved with
      | refl => rfl
      | tail _ hlast ih => exact ih.trans hlast.foldl_passed
    rw [hsame, foldl_passed_plain hgoal, List.nil_append]
  · rintro rfl
    refine ⟨shortens_foldl_passed (fun part hpart => absurd hpart List.not_mem_nil) _, ?_⟩
    exact foldl_passed_all (fun part hpart => absurd hpart List.not_mem_nil) fun _ _ hplain => hplain

end ServerUi
