import ServerUi.File.Tree
import ServerUi.Proofs.File.Place

/-! Trees of files whose entries have names, and what is looked up there. Without limits on names, a
place is found by its names exactly if there is something at it. -/

namespace ServerUi

namespace FileTree

/-- All entries are kept under names. -/
inductive Proper : FileTree → Prop where
  | file (bytes : List UInt8) : Proper (.file bytes)
  | directory {entries : List (String × FileTree)} (names : ∀ entry ∈ entries, IsName entry.1)
    (below : ∀ entry ∈ entries, Proper entry.2) : Proper (.directory entries)

def HasFile (t : FileTree) (place : List String) : Prop :=
  ∃ bytes, t.get? place = some (.file bytes)

theorem get?_append (t : FileTree) (place rest : List String) :
    t.get? (place ++ rest) = (t.get? place).bind fun u => u.get? rest := by
  induction place generalizing t with
  | nil => rfl
  | cons name more ih =>
    cases t with
    | file bytes => rfl
    | directory entries =>
      rw [List.cons_append, get?, get?, Option.bind_assoc]
      congr 1
      funext u
      exact ih u

theorem Proper.names {t u : FileTree} {place : List String} (ht : t.Proper)
    (hget : t.get? place = some u) : ∀ part ∈ place, IsName part := by
  induction place generalizing t with
  | nil => exact fun part hpart => absurd hpart List.not_mem_nil
  | cons name rest ih =>
    cases ht with
    | file bytes => cases hget
    | directory hnames hbelow =>
      obtain ⟨v, hlookup, hrest⟩ := Option.bind_eq_some_iff.mp hget
      obtain ⟨front, back, rfl, -⟩ := List.lookup_eq_some_iff.mp hlookup
      have hmem : (name, v) ∈ front ++ (name, v) :: back := by simp
      exact List.forall_mem_cons.mpr ⟨hnames _ hmem, ih (hbelow _ hmem) hrest⟩

theorem any_isFile_get? (t : FileTree) (place : List String) :
    (t.get? place).any isFile = true ↔ t.HasFile place := by
  rw [HasFile]
  rcases t.get? place with _ | bytes | entries <;> simp [isFile]

/-- On the way to a directory there are only directories. -/
theorem exists_directory_of_append {t : FileTree} {place rest : List String}
    {entries : List (String × FileTree)} (h : t.get? (place ++ rest) = some (.directory entries)) :
    ∃ above, t.get? place = some (.directory above) := by
  rw [get?_append] at h
  obtain ⟨u, hu, hrest⟩ := Option.bind_eq_some_iff.mp h
  cases u with
  | directory above => exact ⟨above, hu⟩
  | file bytes => cases rest <;> cases hrest

end FileTree

theorem PathName.hasNull_names (root : PathRoot) {parts : List String}
    (h : ∀ part ∈ parts, IsName part) : (⟨root, parts⟩ : PathName).hasNull = false := by
  rw [hasNull, List.any_eq_false]
  intro part hpart
  rw [List.contains_iff_mem]
  exact (h part hpart).nullless

theorem Unreadable.leavesOpen_iff {why : Unreadable} :
    why.leavesOpen = true ↔ why = .nameTooLong ∨ why = .denied := by
  cases why <;> decide

namespace FileSystem

section IsFile

variable {fs : FileSystem} {name : PathName}

theorem isFile_eq_true_iff :
    fs.isFile name = .ok true ↔ name.hasNull = false ∧
      ∃ place bytes, fs.find name = .ok (place, .file bytes) := by
  unfold isFile
  cases name.hasNull with
  | true => simp
  | false =>
    rcases fs.find name with e | ⟨place, t⟩
    · cases e <;> simp [Unreadable.leavesOpen]
    · cases t <;> simp [FileTree.isFile]

theorem isFile_error_iff {why : Unreadable} :
    fs.isFile name = .error why ↔ name.hasNull = false ∧
      fs.find name = .error why ∧ why.leavesOpen = true := by
  unfold isFile
  cases name.hasNull with
  | true => simp
  | false =>
    rcases fs.find name with e | ⟨place, t⟩
    · cases e <;> cases why <;> simp [Unreadable.leavesOpen]
    · simp

theorem isFile_of_read {bytes : List UInt8} (hnull : name.hasNull = false)
    (hread : fs.read name = .ok bytes) : fs.isFile name = .ok true := by
  rw [isFile_eq_true_iff, and_iff_right hnull]
  unfold read at hread
  split at hread
  · next place bytes' hfind => exact ⟨place, bytes', hfind⟩
  · cases hread
  · cases hread

/-- What cannot be read is a file, unless it is left open already where it is looked for. -/
theorem isFile_of_unread {why : Unreadable} (hnull : name.hasNull = false)
    (hread : fs.read name = .error why) (hwhy : why.leavesOpen = true) :
    fs.isFile name = .ok true ∨ fs.isFile name = .error why := by
  rw [isFile_eq_true_iff, and_iff_right hnull, isFile_error_iff, and_iff_right hnull]
  unfold read at hread
  split at hread
  · next place bytes hfind => exact .inl ⟨place, bytes, hfind⟩
  · cases hread
    cases hwhy
  · next hfind =>
    cases hread
    exact .inr ⟨hfind, hwhy⟩

/-- There is no file, or one that is read, or it is left open what is there. -/
theorem isFile_cases (fs : FileSystem) (name : PathName) :
    fs.isFile name = .ok false ∨ name.hasNull = false ∧
      ((∃ bytes, fs.read name = .ok bytes) ∨
        ∃ why, fs.read name = .error why ∧ why.leavesOpen = true) := by
  cases hfile : fs.isFile name with
  | error why =>
    obtain ⟨hnull, hfind, hwhy⟩ := isFile_error_iff.mp hfile
    refine .inr ⟨hnull, .inr ⟨why, ?_, hwhy⟩⟩
    rw [read, hfind]
  | ok there =>
    cases there with
    | false => exact .inl rfl
    | true =>
      obtain ⟨hnull, place, bytes, hfind⟩ := isFile_eq_true_iff.mp hfile
      rw [read, hfind]
      dsimp only
      split
      · exact .inr ⟨hnull, .inr ⟨_, rfl, rfl⟩⟩
      · exact .inr ⟨hnull, .inl ⟨bytes, rfl⟩⟩

end IsFile

/-- A part is too long for the directory that it stands in, or that directory is closed. -/
def Barred (fs : FileSystem) (place rest : List String) : Prop :=
  ∃ front part back entries, rest = front ++ part :: back ∧
    fs.root.get? (place ++ front) = some (.directory entries) ∧
    (fs.limits.closed (place ++ front) = true ∨ Limits.exceeds part fs.limits.part = true)

/-- Parts are followed up to one that is barred by the directory that it stands in. -/
theorem follow_barred_iff {fs : FileSystem} {rest : List String}
    (hrest : ∀ part ∈ rest, IsName part) (place : List String) :
    (∃ why, fs.follow place rest = .error why ∧ why.leavesOpen = true) ↔
      fs.Barred place rest := by
  induction rest generalizing place with
  | nil =>
    refine iff_of_false (by rintro ⟨_, ⟨⟩, -⟩) ?_
    rintro ⟨front, part, back, entries, hsplit, -⟩
    exact absurd hsplit (by simp)
  | cons first rest ih =>
    obtain ⟨hfirst, hrest⟩ := List.forall_mem_cons.mp hrest
    have hstep : stepInto place first = place ++ [first] := if_neg hfirst.plain.2.2
    rw [follow]
    cases ht : fs.root.get? place with
    | none =>
      refine iff_of_false (by rintro ⟨_, ⟨⟩, ⟨⟩⟩) ?_
      rintro ⟨front, part, back, entries, -, hget, -⟩
      obtain ⟨above, habove⟩ := FileTree.exists_directory_of_append hget
      cases ht.symm.trans habove
    | some t =>
      cases t with
      | file bytes =>
        refine iff_of_false (by rintro ⟨_, ⟨⟩, ⟨⟩⟩) ?_
        rintro ⟨front, part, back, entries, -, hget, -⟩
        obtain ⟨above, habove⟩ := FileTree.exists_directory_of_append hget
        cases ht.symm.trans habove
      | directory entries =>
        dsimp only
        have hhere (hbar : fs.limits.closed place = true ∨
            Limits.exceeds first fs.limits.part = true) : fs.Barred place (first :: rest) :=
          ⟨[], first, rest, entries, rfl, by rwa [List.append_nil], by rwa [List.append_nil]⟩
        by_cases hclosed : fs.limits.closed place = true
        · rw [if_pos hclosed]
          exact iff_of_true ⟨_, rfl, rfl⟩ (hhere (.inl hclosed))
        by_cases hlong : Limits.exceeds first fs.limits.part = true
        · rw [if_neg hclosed, if_pos hlong]
          exact iff_of_true ⟨_, rfl, rfl⟩ (hhere (.inr hlong))
        rw [if_neg hclosed, if_neg hlong, hstep, ih hrest]
        constructor
        · rintro ⟨front, part, back, above, hsplit, hget, hpart⟩
          refine ⟨first :: front, part, back, above, congrArg (first :: ·) hsplit, ?_, ?_⟩
          · rwa [List.append_assoc] at hget
          · rwa [List.append_assoc] at hpart
        · rintro ⟨front, part, back, above, hsplit, hget, hpart⟩
          cases front with
          | nil =>
            obtain ⟨rfl, -⟩ := List.cons.inj hsplit
            rw [List.append_nil] at hpart
            exact (hpart.elim hclosed hlong).elim
          | cons other front =>
            obtain ⟨rfl, hbehind⟩ := List.cons.inj hsplit
            refine ⟨front, part, back, above, hbehind, ?_, ?_⟩
            · rwa [List.append_assoc]
            · rwa [List.append_assoc]

/-- There is no answer to whether a place is a file only where its name or a part of it is too long,
or a directory on the way is closed. -/
theorem isFile_fails_iff {fs : FileSystem} {place : List String}
    (hplace : ∀ part ∈ place, IsName part) :
    (∃ why, fs.isFile ⟨.single, place⟩ = .error why) ↔
      Limits.exceeds (PathName.text ⟨.single, place⟩) fs.limits.whole = true ∨
        fs.Barred [] place := by
  have hnull := PathName.hasNull_names .single hplace
  have hstart : (⟨.single, place⟩ : PathName).isAbsolute = true := rfl
  simp only [isFile_error_iff, hnull, true_and]
  rw [← follow_barred_iff hplace, find, hstart]
  split
  · next hwhole => exact iff_of_true ⟨.nameTooLong, rfl, rfl⟩ (.inl hwhole)
  · next hwhole =>
    rw [or_iff_right hwhole, if_pos rfl]
    cases fs.follow [] place with
    | error why => simp only [Except.error.injEq]
    | ok goal =>
      dsimp only
      cases fs.root.get? goal with
      | none => exact iff_of_false (by rintro ⟨_, ⟨⟩, ⟨⟩⟩) (by rintro ⟨_, ⟨⟩, -⟩)
      | some t => exact iff_of_false (by rintro ⟨_, ⟨⟩, -⟩) (by rintro ⟨_, ⟨⟩, -⟩)

/-- The entries have names, and the working directory is a directory. -/
structure Proper (fs : FileSystem) : Prop where
  root : fs.root.Proper
  cwd : ∃ entries, fs.root.get? fs.cwd = some (.directory entries)

theorem Proper.cwd_names {fs : FileSystem} (h : fs.Proper) : ∀ part ∈ fs.cwd, IsName part := by
  obtain ⟨entries, hcwd⟩ := h.cwd
  exact h.root.names hcwd

section Unlimited

variable {fs : FileSystem} (unlimited : fs.limits = .unlimited)

include unlimited

theorem resolve_unlimited {p : PathName} (hnull : p.hasNull = false) (cwd : List String) :
    p.resolve fs.limits.unencodable cwd = .ok (p.place cwd) := by
  rw [unlimited]
  exact PathName.resolve_of_encodable (fun _ => rfl) hnull

/-- Names are followed to their end, or there is nothing at it. -/
theorem follow_names {rest : List String} (hrest : ∀ part ∈ rest, IsName part)
    (place : List String) :
    fs.follow place rest = .ok (place ++ rest) ∨
    ∃ why, fs.follow place rest = .error why ∧ why.leavesOpen = false ∧
      fs.root.get? (place ++ rest) = none := by
  induction rest generalizing place with
  | nil =>
    rw [List.append_nil]
    exact .inl rfl
  | cons part rest ih =>
    obtain ⟨hpart, hrest⟩ := List.forall_mem_cons.mp hrest
    have hstep : stepInto place part = place ++ [part] := if_neg hpart.plain.2.2
    have hopen : fs.limits.closed place = false := by
      rw [unlimited]
      rfl
    have hshort : Limits.exceeds part fs.limits.part = false := by
      rw [unlimited]
      rfl
    have hget := FileTree.get?_append fs.root place (part :: rest)
    rw [follow]
    cases ht : fs.root.get? place with
    | none =>
      rw [ht] at hget
      exact .inr ⟨.missing, rfl, rfl, hget⟩
    | some t =>
      rw [ht] at hget
      cases t with
      | file bytes => exact .inr ⟨.notDirectory, rfl, rfl, hget⟩
      | directory entries =>
        simp only [hopen, hshort, Bool.false_eq_true, if_false, hstep]
        have hfurther := ih hrest (place ++ [part])
        rwa [List.append_assoc, List.singleton_append] at hfurther

/-- What is at a place is found there; where nothing is, that is not left open. -/
theorem find_names {place : List String} (hplace : ∀ part ∈ place, IsName part) :
    (∃ t, fs.root.get? place = some t ∧ fs.find ⟨.single, place⟩ = .ok (place, t)) ∨
    fs.root.get? place = none ∧
      ∃ why, fs.find ⟨.single, place⟩ = .error why ∧ why.leavesOpen = false := by
  have hshort : Limits.exceeds (⟨.single, place⟩ : PathName).text fs.limits.whole = false := by
    rw [unlimited]
    rfl
  have hstart : (⟨.single, place⟩ : PathName).isAbsolute = true := rfl
  simp only [find, hshort, Bool.false_eq_true, if_false, hstart, if_true]
  rcases follow_names unlimited hplace [] with hfollow | ⟨why, hfollow, hwhy, hnone⟩
  · rw [List.nil_append] at hfollow
    simp only [hfollow]
    cases fs.root.get? place with
    | none => exact .inr ⟨rfl, .missing, rfl, rfl⟩
    | some t => exact .inl ⟨t, rfl, rfl⟩
  · rw [List.nil_append] at hnone
    simp only [hfollow]
    exact .inr ⟨hnone, why, rfl, hwhy⟩

theorem isFile_names {place : List String} (hplace : ∀ part ∈ place, IsName part) :
    fs.isFile ⟨.single, place⟩ = .ok ((fs.root.get? place).any FileTree.isFile) := by
  have hnull := PathName.hasNull_names .single hplace
  simp only [isFile, hnull, Bool.false_eq_true, if_false]
  rcases find_names unlimited hplace with ⟨t, ht, hfind⟩ | ⟨hnone, why, hfind, hwhy⟩
  · rw [hfind, ht]
    rfl
  · rw [hfind, hnone]
    dsimp only
    rw [hwhy]
    rfl

end Unlimited

end FileSystem

end ServerUi
