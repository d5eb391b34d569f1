import ServerUi.Proofs.Console.Order
import ServerUi.Proofs.Json.Stops
import ServerUi.Proofs.Text.Utf8

/-! What loading a document ends in, for every file, and what the command shows of it. -/

namespace ServerUi

/-- The text of a file, with a line feed at the end of each line. -/
def FileSystem.Holds (fs : FileSystem) (source : PathName) (text : List Char) : Prop :=
  ∃ cs, fs.read source = .ok (Utf8.encode cs) ∧ text = unixLines cs

/-- Behind some part of the text a value is to begin, and a whole number of too many digits stands
there. -/
def Json.MeetsLongInteger (text : List Char) (digits : Nat) : Prop :=
  integerDigitLimit < digits ∧ ∃ front number, text = front ++ number ∧
    WholeAhead digits number ∧ readText front = .error (.value, 0)

namespace Document

variable {fs : FileSystem} {source : PathName} {text : List Char}

theorem parse_eq_ok_iff {v : Json} : parse source text = .ok v ↔ Json.readText text = .ok v := by
  unfold parse
  split
  · next hread => rw [hread]; simp
  · next hread => rw [hread]; simp
  · next hread => rw [hread]; simp

theorem parse_error {e : DocumentError} (h : parse source text = .error e) :
    (∃ flaw, e = .flawed source flaw) ∨ ∃ digits, e = .longInteger digits := by
  unfold parse at h
  split at h
  · cases h
  · cases h
    exact .inr ⟨_, rfl⟩
  · cases h
    exact .inl ⟨_, rfl⟩

theorem parse_eq_longInteger_iff {digits : Nat} :
    parse source text = .error (.longInteger digits) ↔ Json.MeetsLongInteger text digits := by
  have hparse : parse source text = .error (.longInteger digits) ↔
      ∃ left, Json.readText text = .error (.longInteger digits, left) := by
    unfold parse
    split
    · next hread => rw [hread]; simp
    · next digits' left hread => rw [hread]; simp
    · next flaw left hflaw hread =>
      rw [hread]
      simp only [Except.error.injEq, reduceCtorEq, Prod.mk.injEq, false_iff, not_exists]
      rintro left' ⟨rfl, -⟩
      exact hflaw digits rfl
  rw [hparse]
  constructor
  · rintro ⟨left, h⟩
    obtain ⟨hlong, front, number, rfl, -, hnumber, hfront⟩ := Json.readText_longInteger_iff.mp h
    exact ⟨hlong, front, number, rfl, hnumber, hfront⟩
  · rintro ⟨hlong, front, number, rfl, hnumber, hfront⟩
    exact ⟨number.length, Json.readText_longInteger_iff.mpr
      ⟨hlong, front, number, rfl, rfl, hnumber, hfront⟩⟩

/-- Members of the object that a document is to be. -/
def rootMembers (source : PathName) : Json → Except DocumentError Config
  | .obj members => .ok members
  | found => .error (.flawed source (.root found))

theorem ofFile_null (h : source.hasNull = true) : ofFile fs source = .error .nullCharacter := by
  rw [ofFile, if_pos h]

theorem ofFile_of_holds (h : source.hasNull = false) (hfile : fs.Holds source text) :
    ofFile fs source = parse source text >>= rootMembers source := by
  obtain ⟨cs, hread, rfl⟩ := hfile
  rw [ofFile, if_neg (by rw [h]; exact Bool.false_ne_true), hread]
  dsimp only
  rw [Utf8.decode_eq_ok_iff.mpr rfl]
  dsimp only
  cases parse source (unixLines cs) with
  | error e => rfl
  | ok v => cases v <;> rfl

theorem ofFile_of_not_holds (h : source.hasNull = false) (hfile : ¬∃ text, fs.Holds source text) :
    ∃ flaw, ofFile fs source = .error (.flawed source flaw) := by
  rw [ofFile, if_neg (by rw [h]; exact Bool.false_ne_true)]
  split
  · next why _ => exact ⟨.unreadable why, rfl⟩
  · next bytes hread =>
    split
    · next flaw _ => exact ⟨.encoding flaw, rfl⟩
    · next cs hdecode =>
      rw [Utf8.decode_eq_ok_iff.mp hdecode] at hread
      exact absurd ⟨_, cs, hread, rfl⟩ hfile

theorem rootMembers_eq_ok_iff {v : Json} {members : Config} :
    rootMembers source v = .ok members ↔ v = .obj members := by
  cases v <;> simp [rootMembers]

theorem ofFile_cases (fs : FileSystem) (source : PathName) :
    (source.hasNull = true ∧ ofFile fs source = .error .nullCharacter) ∨
    source.hasNull = false ∧ ((∃ flaw, ofFile fs source = .error (.flawed source flaw) ∧
        ¬∃ text, fs.Holds source text) ∨
      ∃ text, fs.Holds source text ∧
        ofFile fs source = parse source text >>= rootMembers source) := by
  cases hnull : source.hasNull with
  | true => exact .inl ⟨rfl, ofFile_null hnull⟩
  | false =>
    by_cases hfile : ∃ text, fs.Holds source text
    · obtain ⟨text, hfile⟩ := hfile
      exact .inr ⟨rfl, .inr ⟨text, hfile, ofFile_of_holds hnull hfile⟩⟩
    · obtain ⟨flaw, hflaw⟩ := ofFile_of_not_holds hnull hfile
      exact .inr ⟨rfl, .inl ⟨flaw, hflaw, hfile⟩⟩

theorem ofFile_eq_ok_iff {members : Config} :
    ofFile fs source = .ok members ↔ source.hasNull = false ∧
      ∃ text, fs.Holds source text ∧ Json.readText text = .ok (.obj members) := by
  constructor
  · intro h
    obtain ⟨-, he⟩ | ⟨hnull, ⟨flaw, he, -⟩ | ⟨text, hfile, hparse⟩⟩ := ofFile_cases fs source
    · cases he.symm.trans h
    · cases he.symm.trans h
    · obtain ⟨v, hv, hroot⟩ := bind_eq_ok_iff.mp (hparse.symm.trans h)
      obtain rfl := rootMembers_eq_ok_iff.mp hroot
      exact ⟨hnull, text, hfile, parse_eq_ok_iff.mp hv⟩
  · rintro ⟨hnull, text, hfile, hread⟩
    rw [ofFile_of_holds hnull hfile, parse_eq_ok_iff.mpr hread]
    rfl

theorem rootMembers_error {v : Json} {e : DocumentError} (h : rootMembers source v = .error e) :
    ∃ flaw, e = .flawed source flaw := by
  unfold rootMembers at h
  split at h
  · cases h
  · cases h
    exact ⟨_, rfl⟩

theorem ofFile_eq_longInteger_iff {digits : Nat} :
    ofFile fs source = .error (.longInteger digits) ↔ source.hasNull = false ∧
      ∃ text, fs.Holds source text ∧ Json.MeetsLongInteger text digits := by
  constructor
  · intro h
    obtain ⟨-, he⟩ | ⟨hnull, ⟨flaw, he, -⟩ | ⟨text, hfile, hparse⟩⟩ := ofFile_cases fs source
    · cases he.symm.trans h
    · cases he.symm.trans h
    · rcases bind_eq_error_iff.mp (hparse.symm.trans h) with hlong | ⟨v, -, hroot⟩
      · exact ⟨hnull, text, hfile, parse_eq_longInteger_iff.mp hlong⟩
      · obtain ⟨flaw, he⟩ := rootMembers_error hroot
        cases he
  · rintro ⟨hnull, text, hfile, hlong⟩
    rw [ofFile_of_holds hnull hfile, parse_eq_longInteger_iff.mpr hlong]
    rfl

theorem ofFile_eq_nullCharacter_iff :
    ofFile fs source = .error .nullCharacter ↔ source.hasNull = true := by
  refine ⟨fun h => ?_, ofFile_null⟩
  obtain ⟨hnull, -⟩ | ⟨-, ⟨flaw, he, -⟩ | ⟨text, -, hparse⟩⟩ := ofFile_cases fs source
  · exact hnull
  · cases he.symm.trans h
  · rcases bind_eq_error_iff.mp (hparse.symm.trans h) with he | ⟨v, -, hroot⟩
    · obtain ⟨flaw, he⟩ | ⟨digits, he⟩ := parse_error he <;> cases he
    · obtain ⟨flaw, he⟩ := rootMembers_error hroot
      cases he

theorem ofFile_error {e : DocumentError} (h : ofFile fs source = .error e) :
    (∃ flaw, e = .flawed source flaw) ∨ e = .nullCharacter ∨ ∃ digits, e = .longInteger digits := by
  obtain ⟨-, he⟩ | ⟨-, ⟨flaw, he, -⟩ | ⟨text, -, hparse⟩⟩ := ofFile_cases fs source
  · cases he.symm.trans h
    exact .inr (.inl rfl)
  · cases he.symm.trans h
    exact .inl ⟨flaw, rfl⟩
  · rcases bind_eq_error_iff.mp (hparse.symm.trans h) with he | ⟨v, -, hroot⟩
    · exact (parse_error he).imp_right .inr
    · exact .inl (rootMembers_error hroot)

end Document

/-- Loading fails with an error that names the file, unless the name holds a null character or the
text meets a whole number of too many digits. Only then does the command not show its error view. -/
theorem document_outcomes (fs : FileSystem) (source : PathName) :
    let outcome := Document.ofFile fs source
    ((∃ members, outcome = .ok members) ∨ (∃ flaw, outcome = .error (.flawed source flaw)) ∨
      outcome = .error .nullCharacter ∨ ∃ digits, outcome = .error (.longInteger digits)) ∧
    (∀ members, outcome = .ok members ↔ source.hasNull = false ∧
      ∃ text, fs.Holds source text ∧ Json.readText text = .ok (.obj members)) ∧
    (outcome = .error .nullCharacter ↔ source.hasNull = true) ∧
    (∀ digits, outcome = .error (.longInteger digits) ↔ source.hasNull = false ∧
      ∃ text, fs.Holds source text ∧ Json.MeetsLongInteger text digits) ∧
    ∀ (environment : Option String) (order : RenderOrder) (settings : Settings),
      order.document = source → Settings.load fs order.settings = .ok settings →
      let run := Run.ofOrder fs environment order
      (∀ flaw, outcome = .error (.flawed source flaw) → run.ending = .exit 1 ∧
        run.display = .loadError (DocumentError.flawed source flaw).message) ∧
      (run.ending = .crash .longInteger ↔ ∃ digits, outcome = .error (.longInteger digits)) := by
  intro outcome
  refine ⟨?_, fun _ => Document.ofFile_eq_ok_iff, Document.ofFile_eq_nullCharacter_iff,
    fun _ => Document.ofFile_eq_longInteger_iff, ?_⟩
  · cases houtcome : outcome with
    | ok members => exact .inl ⟨members, rfl⟩
    | error e =>
      obtain ⟨flaw, rfl⟩ | rfl | ⟨digits, rfl⟩ := Document.ofFile_error houtcome
      · exact .inr (.inl ⟨flaw, rfl⟩)
      · exact .inr (.inr (.inl rfl))
      · exact .inr (.inr (.inr ⟨digits, rfl⟩))
  · rintro environment order settings rfl hsettings run
    refine ⟨fun flaw hflaw => ?_, ?_⟩
    · have hrun : run = Run.failed _ (.document (.flawed order.document flaw)) :=
        Run.ofOrder_document_error environment hsettings hflaw
      rw [hrun]
      exact ⟨rfl, rfl⟩
    · cases houtcome : outcome with
      | ok members =>
        refine ⟨fun hcrash => ?_, nofun⟩
        rcases Run.ofOrder_document_ok environment hsettings houtcome with
          (hassets | hassets) | ⟨host, -, hrun⟩
        · cases hassets.symm.trans hcrash
        · cases hassets.symm.trans hcrash
        · cases (congrArg Run.ending hrun).symm.trans hcrash
      | error e =>
        have hrun : run.ending = (LoadError.document e).ending :=
          congrArg Run.ending (Run.ofOrder_document_error environment hsettings houtcome)
        rw [hrun]
        cases e with
        | flawed => exact ⟨nofun, nofun⟩
        | nullCharacter => exact ⟨nofun, nofun⟩
        | longInteger digits => exact ⟨fun _ => ⟨digits, rfl⟩, fun _ => rfl⟩

theorem document_outcomes_missing :
    let fs : FileSystem := ⟨.directory [], [], .unlimited⟩
    let order : RenderOrder := ⟨⟨.relative, ["ui.json"]⟩, none, false, false⟩
    Settings.load fs order.settings = .ok .default ∧
    (Run.ofOrder fs none order).ending = .exit 1 := by
  intro fs order
  have hsettings : Settings.load fs order.settings = .ok .default := rfl
  have hmissing : Document.ofFile fs order.document =
      .error (.flawed order.document (.unreadable .missing)) := rfl
  obtain ⟨-, -, -, -, hrun⟩ := document_outcomes fs order.document
  exact ⟨hsettings, ((hrun none order _ rfl hsettings).1 _ hmissing).1⟩

theorem unixLines_eq_self {cs : List Char} (h : '\r' ∉ cs) : unixLines cs = cs := by
  induction cs with
  | nil => rfl
  | cons c rest ih =>
    obtain ⟨hc, hrest⟩ := not_or.mp (mt List.mem_cons.mpr h)
    rw [unixLines, ih hrest]
    · exact fun rest' h => absurd h.symm hc
    · exact fun h => absurd h.symm hc

/-- An object with one member, a whole number of so many ones. -/
def manyOnes (digits : Nat) : List Char :=
  "\x7b\"a\":".toList ++ (List.replicate digits '1' ++ ['\x7d'])

theorem unixLines_manyOnes (digits : Nat) : unixLines (manyOnes digits) = manyOnes digits := by
  refine unixLines_eq_self fun h => ?_
  rcases List.mem_append.mp h with h | h
  · exact absurd h (by decide)
  · rcases List.mem_append.mp h with h | h
    · cases List.eq_of_mem_replicate h
    · cases List.mem_singleton.mp h

theorem meetsLongInteger_manyOnes {digits : Nat} (h : integerDigitLimit < digits) :
    Json.MeetsLongInteger (manyOnes digits) digits := by
  refine ⟨h, _, _, rfl, ?_, rfl⟩
  have hwhole : Json.IsWhole (List.replicate digits '1') := by
    refine ⟨?_, fun d hd => ?_, ?_⟩
    · rw [Ne, List.replicate_eq_nil_iff]
      omega
    · rw [List.eq_of_mem_replicate hd]
      rfl
    · rw [List.head?_replicate]
      split <;> simp
  exact ⟨false, _, ['\x7d'], rfl, hwhole, List.length_replicate, by simp [Json.Undigit], rfl, rfl⟩

theorem document_unloaded :
    let fs : FileSystem :=
      ⟨.directory [("ui.json", .file (Utf8.encode (manyOnes 4301)))], [], .unlimited⟩
    let order : RenderOrder := ⟨⟨.relative, ["ui.json"]⟩, none, false, false⟩
    Document.ofFile fs order.document = .error (.longInteger 4301) ∧
    (∀ flaw, Document.ofFile fs order.document ≠ .error (.flawed order.document flaw)) ∧
    (Run.ofOrder fs none order).ending = .crash .longInteger := by
  intro fs order
  have hread : fs.read order.document = .ok (Utf8.encode (manyOnes 4301)) := rfl
  have hload : Document.ofFile fs order.document = .error (.longInteger 4301) :=
    Document.ofFile_eq_longInteger_iff.mpr
      ⟨rfl, manyOnes 4301, ⟨_, hread, (unixLines_manyOnes 4301).symm⟩,
        meetsLongInteger_manyOnes (by decide)⟩
  refine ⟨hload, fun flaw hflaw => ?_, ?_⟩
  · cases hload.symm.trans hflaw
  · rw [Run.ofOrder_document_error none rfl hload]
    rfl

end ServerUi
