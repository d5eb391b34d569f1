import ServerUi.Proofs.Except
import ServerUi.Proofs.File.Tree
import ServerUi.Proofs.Text.Utf8
import ServerUi.Proofs.Toml.Depth
import ServerUi.Settings.Load

/-! What loading settings ends in, for every file, and where the directory of assets comes from. -/

namespace ServerUi

namespace Settings

def textUnder (entries : Toml.Entries) (name : String) : Option String :=
  match entries.lookup name with
  | some (.text s) => some s
  | _ => none

/-- The entries of a table, of which there are none if it is missing. -/
def tableUnder (entries : Toml.Entries) (name : String) : Toml.Entries :=
  match entries.lookup name with
  | some (.table inner) => inner
  | _ => []

def writtenAssets (entries : Toml.Entries) : Option String :=
  textUnder (tableUnder entries "render") "assets_dir"

theorem lookup_givenEntries (entries : Toml.Entries) (name : String) :
    (Toml.givenEntries entries).lookup name = (entries.lookup name).map Toml.given := by
  induction entries with
  | nil => rfl
  | cons entry rest ih =>
    obtain ⟨k, v⟩ := entry
    rw [Toml.givenEntries, List.lookup_cons, List.lookup_cons, ih]
    cases name == k <;> rfl

theorem checkTable_given {entries : Toml.Entries} {name : String}
    {inner : List (String × Given)}
    (h : checkTable ((Toml.givenEntries entries).lookup name) = .ok inner) :
    inner = Toml.givenEntries (tableUnder entries name) := by
  rw [lookup_givenEntries] at h
  unfold tableUnder
  cases hentry : entries.lookup name with
  | none =>
    rw [hentry] at h
    cases h
    rfl
  | some v =>
    rw [hentry] at h
    cases v <;> cases h
    rfl

theorem checkAssets_given {entries : Toml.Entries} {assets : Option PathName}
    (h : checkAssets ((Toml.givenEntries entries).lookup "assets_dir") = .ok assets) :
    assets = (textUnder entries "assets_dir").map PathName.ofString := by
  rw [lookup_givenEntries] at h
  unfold textUnder
  cases hentry : entries.lookup "assets_dir" with
  | none =>
    rw [hentry] at h
    cases h
    rfl
  | some v =>
    rw [hentry] at h
    cases v <;> cases h
    rfl

theorem checkRender_given {entries : Toml.Entries} {assets : Option PathName} {state : StoreKind}
    (h : checkRender ((Toml.givenEntries entries).lookup "render") = .ok (assets, state)) :
    assets = (writtenAssets entries).map PathName.ofString := by
  unfold checkRender at h
  split at h
  · cases h
  · next inner htable =>
    obtain rfl := checkTable_given htable
    split at h
    · next hassets _ =>
      cases h
      exact checkAssets_given hassets
    · cases h

theorem validate_assets {entries : Toml.Entries} {settings : Settings}
    (h : validate (Toml.table entries).given = .ok settings) :
    settings.assets = (writtenAssets entries).map PathName.ofString := by
  rw [Toml.given, validate] at h
  split at h
  · next hrender _ =>
    cases h
    exact checkRender_given hrender
  · cases h
  · cases h
  · cases h

/-- A directory of assets is unset, absolute as it is written, or seen from the directory of the
file. -/
def AssetsFrom (source : PathName) (written : Option String) (assets : Option PathName) : Prop :=
  match written with
  | none => assets = none
  | some s =>
    if (PathName.ofString s).isAbsolute then assets = some (.ofString s)
    else assets = some ⟨source.root, source.parent.parts ++ (PathName.ofString s).parts⟩

theorem assetsFrom_seenFrom {source : PathName} {settings : Settings} {written : Option String}
    (h : settings.assets = written.map PathName.ofString) :
    AssetsFrom source written (seenFrom source settings).assets := by
  rw [seenFrom, h]
  cases written with
  | none => rfl
  | some s =>
    unfold AssetsFrom
    dsimp only [Option.map_some]
    rw [PathName.join]
    split <;> rfl

variable {fs : FileSystem} {source : PathName}

theorem parse_cases (room : Option Nat) (source : PathName) (cs : List Char) :
    (∃ flaw, parse room source cs = .error (.flawed source flaw)) ∨
    (∃ digits, Toml.readDocument room cs = .error (.longInteger digits) ∧
      parse room source cs = .error (.longInteger digits)) ∨
    (Toml.readDocument room cs = .error .tooDeep ∧ parse room source cs = .error .tooDeep) ∨
    ∃ entries settings, Toml.readDocument room cs = .ok entries ∧
      validate (Toml.table entries).given = .ok settings ∧ parse room source cs = .ok settings := by
  unfold parse
  split
  · exact .inl ⟨_, rfl⟩
  · next digits hread => exact .inr (.inl ⟨digits, hread, rfl⟩)
  · next hread => exact .inr (.inr (.inl ⟨hread, rfl⟩))
  · next entries hread =>
    cases hvalid : validate (Toml.table entries).given with
    | ok settings => exact .inr (.inr (.inr ⟨entries, settings, hread, hvalid, rfl⟩))
    | error errors => exact .inl ⟨_, rfl⟩

/-- Without a file, given settings are missing and others are the default. -/
def unfound : Option PathName → Except SettingsFileError Settings
  | some source => .error (.flawed source .missing)
  | none => .ok default

theorem load_eq (fs : FileSystem) (given : Option PathName) :
    load fs given = isThere fs (given.getD (defaultFile fs)) >>= fun there =>
      if there then ofFile fs (given.getD (defaultFile fs)) else unfound given := by
  cases given <;> rfl

theorem ofFile_cases {bytes : List UInt8} (hread : fs.read source = .ok bytes) :
    ((∀ cs, bytes ≠ Utf8.encode cs) ∧ ofFile fs source = .error .encoding) ∨
    ∃ cs, bytes = Utf8.encode cs ∧
      ofFile fs source = (parse fs.limits.room source cs).map (seenFrom source) := by
  rw [ofFile, hread]
  dsimp only
  cases hdecode : Utf8.decode bytes with
  | ok cs =>
    refine .inr ⟨cs, Utf8.decode_eq_ok_iff.mp hdecode, ?_⟩
    dsimp only
    cases parse fs.limits.room source cs <;> rfl
  | error flaw =>
    refine .inl ⟨fun cs hcs => ?_, rfl⟩
    cases hdecode.symm.trans (Utf8.decode_eq_ok_iff.mpr hcs)

section Load

variable {given : Option PathName} {bytes : List UInt8}

theorem load_of_read (hsource : given.getD (defaultFile fs) = source)
    (hnull : source.hasNull = false) (hread : fs.read source = .ok bytes) :
    load fs given = ofFile fs source := by
  rw [load_eq, hsource, isThere, FileSystem.isFile_of_read hnull hread]
  rfl

theorem load_of_unread (hsource : given.getD (defaultFile fs) = source)
    (hnull : source.hasNull = false) {why : Unreadable} (hread : fs.read source = .error why)
    (hwhy : why.leavesOpen = true) : load fs given = .error (.unreadable why source.text) := by
  rw [load_eq, hsource, isThere]
  obtain hfile | hfile := FileSystem.isFile_of_unread hnull hread hwhy
  · have hopened : ofFile fs source = .error (.unreadable why source.text) := by
      rw [ofFile, hread]
    rw [hfile]
    exact hopened
  · rw [hfile]
    rfl

theorem load_of_unfound (hsource : given.getD (defaultFile fs) = source)
    (hfile : fs.isFile source = .ok false) : load fs given = unfound given := by
  rw [load_eq, hsource, isThere, hfile]
  rfl

/-- Everything that loading can end in, with what each end tells of the file. -/
inductive LoadEnd (fs : FileSystem) (given : Option PathName) (source : PathName) :
    Except SettingsFileError Settings → Prop where
  | flawed (flaw : SettingsFileFlaw) : LoadEnd fs given source (.error (.flawed source flaw))
  | unfound (hgiven : given = none) (hfile : fs.isFile source = .ok false) :
    LoadEnd fs given source (.ok default)
  | unreadable {why : Unreadable} (hnull : source.hasNull = false)
    (hread : fs.read source = .error why) (hwhy : why.leavesOpen = true) :
    LoadEnd fs given source (.error (.unreadable why source.text))
  | encoding {bytes : List UInt8} (hnull : source.hasNull = false)
    (hread : fs.read source = .ok bytes) (hbytes : ∀ cs, bytes ≠ Utf8.encode cs) :
    LoadEnd fs given source (.error .encoding)
  | longInteger {cs : List Char} {digits : Nat} (hnull : source.hasNull = false)
    (hread : fs.read source = .ok (Utf8.encode cs))
    (hlong : Toml.readDocument fs.limits.room cs = .error (.longInteger digits)) :
    LoadEnd fs given source (.error (.longInteger digits))
  | tooDeep {cs : List Char} (hnull : source.hasNull = false)
    (hread : fs.read source = .ok (Utf8.encode cs))
    (hdeep : Toml.readDocument fs.limits.room cs = .error .tooDeep) :
    LoadEnd fs given source (.error .tooDeep)
  | loaded {cs : List Char} {entries : Toml.Entries} {settings : Settings}
    (hread : fs.read source = .ok (Utf8.encode cs))
    (hentries : Toml.readDocument fs.limits.room cs = .ok entries)
    (hassets : AssetsFrom source (writtenAssets entries) settings.assets) :
    LoadEnd fs given source (.ok settings)

theorem LoadEnd.outcomes {outcome : Except SettingsFileError Settings}
    (h : LoadEnd fs given source outcome) :
    (∃ settings, outcome = .ok settings) ∨ (∃ flaw, outcome = .error (.flawed source flaw)) ∨
      outcome = .error .encoding ∨ (∃ digits, outcome = .error (.longInteger digits)) ∨
      outcome = .error .tooDeep ∨ ∃ why, outcome = .error (.unreadable why source.text) := by
  cases h with
  | flawed flaw => exact .inr (.inl ⟨flaw, rfl⟩)
  | unfound => exact .inl ⟨_, rfl⟩
  | unreadable => exact .inr (.inr (.inr (.inr (.inr ⟨_, rfl⟩))))
  | encoding => exact .inr (.inr (.inl rfl))
  | longInteger => exact .inr (.inr (.inr (.inl ⟨_, rfl⟩)))
  | tooDeep => exact .inr (.inr (.inr (.inr (.inl rfl))))
  | loaded => exact .inl ⟨_, rfl⟩

theorem load_end (hsource : given.getD (defaultFile fs) = source) :
    LoadEnd fs given source (load fs given) := by
  obtain hfile | ⟨hnull, ⟨bytes, hread⟩ | ⟨why, hread, hwhy⟩⟩ := fs.isFile_cases source
  · rw [load_of_unfound hsource hfile]
    cases given with
    | none => exact .unfound rfl hfile
    | some given =>
      obtain rfl : given = source := hsource
      exact .flawed .missing
  rotate_left
  · rw [load_of_unread hsource hnull hread hwhy]
    exact .unreadable hnull hread hwhy
  rw [load_of_read hsource hnull hread]
  obtain ⟨hbytes, hflaw⟩ | ⟨cs, rfl, hparse⟩ := ofFile_cases hread
  · rw [hflaw]
    exact .encoding hnull hread hbytes
  rw [hparse]
  obtain ⟨flaw, he⟩ | ⟨digits, hlong, he⟩ | ⟨hdeep, he⟩ | ⟨entries, written, hentries, hvalid, hok⟩ :=
    parse_cases fs.limits.room source cs
  · rw [he]
    exact .flawed flaw
  · rw [he]
    exact .longInteger hnull hread hlong
  · rw [he]
    exact .tooDeep hnull hread hdeep
  · rw [hok]
    exact .loaded hread hentries (assetsFrom_seenFrom (validate_assets hvalid))

theorem load_eq_encoding_iff (hsource : given.getD (defaultFile fs) = source) :
    load fs given = .error .encoding ↔ source.hasNull = false ∧
      ∃ bytes, fs.read source = .ok bytes ∧ ∀ cs, bytes ≠ Utf8.encode cs := by
  constructor
  · intro he
    have hend := load_end hsource
    rw [he] at hend
    cases hend with
    | encoding hnull hread hbytes => exact ⟨hnull, _, hread, hbytes⟩
  · rintro ⟨hnull, bytes, hread, hbytes⟩
    obtain ⟨-, he⟩ | ⟨cs, rfl, -⟩ := ofFile_cases hread
    · exact (load_of_read hsource hnull hread).trans he
    · exact absurd rfl (hbytes cs)

/-- The file that settings are loaded from decides by its text, if it has one. -/
theorem load_of_text (hsource : given.getD (defaultFile fs) = source)
    (hnull : source.hasNull = false) {cs : List Char}
    (hread : fs.read source = .ok (Utf8.encode cs)) :
    load fs given = seenFrom source <$> parse fs.limits.room source cs := by
  rw [load_of_read hsource hnull hread, ofFile, hread]
  dsimp only
  rw [Utf8.decode_encode]

theorem load_eq_longInteger_iff (hsource : given.getD (defaultFile fs) = source) {digits : Nat} :
    load fs given = .error (.longInteger digits) ↔ source.hasNull = false ∧
      ∃ cs, fs.read source = .ok (Utf8.encode cs) ∧
        Toml.readDocument fs.limits.room cs = .error (.longInteger digits) := by
  constructor
  · intro he
    have hend := load_end hsource
    rw [he] at hend
    cases hend with
    | longInteger hnull hread hlong => exact ⟨hnull, _, hread, hlong⟩
  · rintro ⟨hnull, cs, hread, hlong⟩
    rw [load_of_text hsource hnull hread, parse, hlong]
    rfl

theorem load_eq_tooDeep_iff (hsource : given.getD (defaultFile fs) = source) :
    load fs given = .error .tooDeep ↔ source.hasNull = false ∧
      ∃ cs, fs.read source = .ok (Utf8.encode cs) ∧
        Toml.readDocument fs.limits.room cs = .error .tooDeep := by
  constructor
  · intro he
    have hend := load_end hsource
    rw [he] at hend
    cases hend with
    | tooDeep hnull hread hdeep => exact ⟨hnull, _, hread, hdeep⟩
  · rintro ⟨hnull, cs, hread, hdeep⟩
    rw [load_of_text hsource hnull hread, parse, hdeep]
    rfl

theorem load_eq_unreadable_iff (hsource : given.getD (defaultFile fs) = source)
    {why : Unreadable} :
    load fs given = .error (.unreadable why source.text) ↔
      source.hasNull = false ∧ fs.read source = .error why ∧ why.leavesOpen = true := by
  constructor
  · intro he
    have hend := load_end hsource
    rw [he] at hend
    cases hend with
    | unreadable hnull hread hwhy => exact ⟨hnull, hread, hwhy⟩
  · rintro ⟨hnull, hread, hwhy⟩
    exact load_of_unread hsource hnull hread hwhy

theorem load_ok (hsource : given.getD (defaultFile fs) = source) {settings : Settings}
    (hok : load fs given = .ok settings) :
    (given = none ∧ fs.isFile source = .ok false ∧ settings = default) ∨
    ∃ cs entries, fs.read source = .ok (Utf8.encode cs) ∧
      Toml.readDocument fs.limits.room cs = .ok entries ∧
      AssetsFrom source (writtenAssets entries) settings.assets := by
  have hend := load_end hsource
  rw [hok] at hend
  cases hend with
  | unfound hgiven hfile => exact .inl ⟨hgiven, hfile, rfl⟩
  | loaded hread hentries hassets => exact .inr ⟨_, _, hread, hentries, hassets⟩

end Load

end Settings

/-- Loading settings fails with an error that names the file, unless the file cannot be opened or its
name not looked up, the bytes are those of no text, a whole number has too many digits, or values stand
too deep in one another. -/
theorem settings_outcomes (fs : FileSystem) (given : Option PathName) :
    let source := given.getD (Settings.defaultFile fs)
    let outcome := Settings.load fs given
    ((∃ settings, outcome = .ok settings) ∨ (∃ flaw, outcome = .error (.flawed source flaw)) ∨
      outcome = .error .encoding ∨ (∃ digits, outcome = .error (.longInteger digits)) ∨
      outcome = .error .tooDeep ∨ ∃ why, outcome = .error (.unreadable why source.text)) ∧
    (outcome = .error .encoding ↔ source.hasNull = false ∧
      ∃ bytes, fs.read source = .ok bytes ∧ ∀ cs, bytes ≠ Utf8.encode cs) ∧
    (∀ digits, outcome = .error (.longInteger digits) ↔ source.hasNull = false ∧
      ∃ cs, fs.read source = .ok (Utf8.encode cs) ∧
        Toml.readDocument fs.limits.room cs = .error (.longInteger digits)) ∧
    (outcome = .error .tooDeep ↔ source.hasNull = false ∧
      ∃ cs, fs.read source = .ok (Utf8.encode cs) ∧
        Toml.readDocument fs.limits.room cs = .error .tooDeep) ∧
    (∀ room depth rest, fs.limits.room = some room → room + 1 < 2 * depth →
      source.hasNull = false → fs.read source = .ok (Utf8.encode (Toml.nested depth rest)) →
      outcome = .error .tooDeep) ∧
    (∀ why, outcome = .error (.unreadable why source.text) ↔ source.hasNull = false ∧
      fs.read source = .error why ∧ (why = .nameTooLong ∨ why = .denied)) ∧
    ∀ settings, outcome = .ok settings →
      (given = none ∧ fs.isFile source = .ok false ∧ settings = .default) ∨
      ∃ cs entries, fs.read source = .ok (Utf8.encode cs) ∧
        Toml.readDocument fs.limits.room cs = .ok entries ∧
        Settings.AssetsFrom source (Settings.writtenAssets entries) settings.assets := by
  intro source outcome
  refine ⟨(Settings.load_end rfl).outcomes, Settings.load_eq_encoding_iff rfl,
    fun _ => Settings.load_eq_longInteger_iff rfl, Settings.load_eq_tooDeep_iff rfl, ?_, fun why => ?_,
    fun _ => Settings.load_ok rfl⟩
  · intro room depth rest hroom hdeep hnull hread
    refine (Settings.load_eq_tooDeep_iff rfl).mpr ⟨hnull, _, hread, ?_⟩
    rw [hroom, Toml.readDocument_tooDeep hdeep]
  · rw [← Unreadable.leavesOpen_iff]
    exact Settings.load_eq_unreadable_iff rfl

/-- A directory whose settings name a directory of assets below it. -/
def imageProject : FileSystem where
  root := .directory [("srv", .directory [("sdui.toml",
    .file (Utf8.encode "[render]\nassets_dir = \"img\"".toList))])]
  cwd := ["srv"]
  limits := .unlimited

theorem load_imageProject :
    Settings.load imageProject none = .ok ⟨some ⟨.single, ["srv", "img"]⟩, .ephemeral, "WARNING"⟩ := by
  have hsome : (Settings.load imageProject none).toOption =
      some ⟨some ⟨.single, ["srv", "img"]⟩, .ephemeral, "WARNING"⟩ := by decide +kernel
  cases hload : Settings.load imageProject none with
  | ok settings =>
    rw [hload] at hsome
    exact congrArg Except.ok (Option.some.inj hsome)
  | error e =>
    rw [hload] at hsome
    cases hsome

theorem settings_outcomes_relative :
    let source : PathName := ⟨.single, ["srv", "sdui.toml"]⟩
    ∃ settings cs entries, Settings.load imageProject none = .ok settings ∧
      settings.assets = some ⟨.single, ["srv", "img"]⟩ ∧
      imageProject.read source = .ok (Utf8.encode cs) ∧ Toml.readDocument none cs = .ok entries ∧
      Settings.AssetsFrom source (Settings.writtenAssets entries) settings.assets := by
  intro source
  obtain ⟨-, -, -, -, -, -, hok⟩ := settings_outcomes imageProject none
  obtain ⟨-, -, hdefault⟩ | ⟨cs, entries, hread, hentries, hassets⟩ := hok _ load_imageProject
  · cases congrArg Settings.assets hdefault
  · exact ⟨_, cs, entries, load_imageProject, rfl, hread, hentries, hassets⟩

theorem settings_unloaded :
    let fs : FileSystem := ⟨.directory [("sdui.toml", .file [0xff])], [], .unlimited⟩
    let source : PathName := ⟨.relative, ["sdui.toml"]⟩
    Settings.load fs (some source) = .error .encoding ∧
    ∀ flaw, Settings.load fs (some source) ≠ .error (.flawed source flaw) := by
  intro fs source
  have hload : Settings.load fs (some source) = .error .encoding := rfl
  refine ⟨hload, fun flaw hflaw => ?_⟩
  cases hload.symm.trans hflaw

end ServerUi
