import ServerUi.Image.Loader
import ServerUi.Proofs.Except
import ServerUi.Proofs.File.Tree

/-! What an asset loader offers: the files at or below its folder, however their names lead there, and
nothing else. -/

namespace ServerUi

namespace AssetFolder

theorem ofName_eq_ok {fs : FileSystem} {name : PathName} {folder : AssetFolder}
    (h : ofName fs name = .ok folder) :
    name.hasNull = false ∧ folder.files = fs ∧ folder.place = name.place fs.cwd := by
  obtain ⟨place, hplace, hfolder⟩ := bind_eq_ok_iff.mp h
  cases hfolder
  exact ⟨PathName.hasNull_of_resolve hplace, rfl, PathName.resolve_eq_ok hplace⟩

theorem loader_outcome (folder : AssetFolder) (source : ImageSource) :
    (folder.loader source).outcome = folder.offers source := by
  rw [loader]
  rcases folder.offers source with fault | _ | _ <;> rfl

theorem offers_url (folder : AssetFolder) (location : String) :
    folder.offers (.url location) = Url.isWeb <$> Url.ofString location :=
  if_pos rfl

theorem offers_asset (folder : AssetFolder) (location : String) :
    folder.offers (.asset location) =
      (PathName.ofString location).resolve folder.files.limits.unencodable folder.place >>=
        folder.holds := by
  have hkind : ¬ (ImageSource.asset location).kind = "url" := by
    change ¬ "asset" = "url"
    decide
  exact if_neg hkind

variable {folder : AssetFolder}

/-- The place that the name of an asset leads to decides whether the asset is offered. -/
theorem asset_outcome (unlimited : folder.files.limits = .unlimited)
    (names : ∀ part ∈ folder.place, IsName part) {location : String}
    (h : (PathName.ofString location).hasNull = false) :
    ∃ ok, (folder.loader (.asset location)).outcome = .ok ok ∧
      (ok = true ↔ folder.place <+: (PathName.ofString location).place folder.place ∧
        folder.files.root.HasFile ((PathName.ofString location).place folder.place)) := by
  have hplace := PathName.place_names names h
  have hoffers : folder.offers (.asset location) =
      folder.holds ((PathName.ofString location).place folder.place) := by
    rw [offers_asset, FileSystem.resolve_unlimited unlimited h, ok_bind]
  generalize (PathName.ofString location).place folder.place = place at *
  rw [holds, FileSystem.isFile_names unlimited hplace] at hoffers
  by_cases hbelow : folder.place <+: place
  · rw [if_pos (List.isPrefixOf_iff_prefix.mpr hbelow)] at hoffers
    refine ⟨_, (loader_outcome folder _).trans hoffers, ?_⟩
    rw [FileTree.any_isFile_get?, and_iff_right hbelow]
  · rw [if_neg (mt List.isPrefixOf_iff_prefix.mp hbelow)] at hoffers
    exact ⟨false, (loader_outcome folder _).trans hoffers,
      iff_of_false Bool.false_ne_true fun hboth => hbelow hboth.1⟩

/-- A file below the folder is offered by any name that leads to it. -/
theorem below_outcome (unlimited : folder.files.limits = .unlimited)
    (names : ∀ part ∈ folder.place, IsName part) {below : List String}
    (hfile : folder.files.root.HasFile (folder.place ++ below)) (name : PathName)
    (hname : ∀ part ∈ name.parts, IsName part)
    (hplace : (if name.isAbsolute then [] else folder.place) ++ name.parts =
      folder.place ++ below) :
    (folder.loader (.asset name.text)).outcome = .ok true := by
  obtain ⟨ok, hok, hiff⟩ := asset_outcome unlimited names (PathName.hasNull_text hname)
  rw [PathName.place_text hname, hplace] at hiff
  rw [hok, hiff.mpr ⟨List.prefix_append folder.place below, hfile⟩]

end AssetFolder

/-- A longer name of a sibling is not below the name that it starts with. -/
theorem not_prefix_sibling (front rest : List String) (name : String) {suffix : String}
    (h : suffix ≠ "") : ¬ front ++ [name] <+: front ++ (name ++ suffix) :: rest := by
  intro hprefix
  rw [List.prefix_append_right_inj, List.cons_prefix_cons] at hprefix
  have hlists := congrArg String.toList hprefix.1
  rw [String.toList_append, List.self_eq_append_right] at hlists
  exact h (String.toList_eq_nil_iff.mp hlists)

/-- In files without links and without limits on names, an asset is offered exactly if the name that
is left of its location, seen from the folder, is that of a file in the folder or below it. A place in
a sibling is not below the folder, also if the name of the sibling starts with that of the folder. All
files below the folder are offered, by the name seen from the folder and by the one from the root. -/
theorem asset_offered_iff {fs : FileSystem} (proper : fs.Proper) (unlimited : fs.limits = .unlimited)
    {directory : String} (nullless : '\x00' ∉ directory.toList) :
    ∃ folder, AssetFolder.ofName fs (.ofString directory) = .ok folder ∧
      LeadsTo fs.cwd directory folder.place ∧
      (∀ location : String, '\x00' ∉ location.toList →
        ∃ place ok, (∀ goal, LeadsTo folder.place location goal ↔ goal = place) ∧
          (folder.loader (.asset location)).outcome = .ok ok ∧
          (ok = true ↔ folder.place <+: place ∧ fs.root.HasFile place) ∧
          ∀ front name suffix rest, folder.place = front ++ [name] → suffix ≠ "" →
            place = front ++ (name ++ suffix) :: rest → ok = false) ∧
      ∀ below, fs.root.HasFile (folder.place ++ below) →
        (folder.loader (.asset (PathName.text ⟨.relative, below⟩))).outcome = .ok true ∧
        (folder.loader (.asset (PathName.text ⟨.single, folder.place ++ below⟩))).outcome =
          .ok true := by
  have hdirectory := PathName.hasNull_ofString nullless
  obtain ⟨folder, hfolder⟩ : ∃ folder, AssetFolder.ofName fs (.ofString directory) = .ok folder := by
    rw [AssetFolder.ofName, FileSystem.resolve_unlimited unlimited hdirectory]
    exact ⟨_, rfl⟩
  obtain ⟨-, rfl, hplace⟩ := AssetFolder.ofName_eq_ok hfolder
  have hcwd := proper.cwd_names
  have hnames : ∀ part ∈ folder.place, IsName part := by
    rw [hplace]
    exact PathName.place_names hcwd hdirectory
  have hleads := leadsTo_iff fun part hpart => (hnames part hpart).plain
  refine ⟨folder, hfolder, ?_, ?_, ?_⟩
  · exact (leadsTo_iff (fun part hpart => (hcwd part hpart).plain) _ _).mpr hplace
  · intro location hlocation
    obtain ⟨ok, hok, hiff⟩ :=
      AssetFolder.asset_outcome unlimited hnames (PathName.hasNull_ofString hlocation)
    refine ⟨_, ok, hleads location, hok, hiff, ?_⟩
    intro front name suffix rest hfront hsuffix hsibling
    rw [hfront] at hiff hsibling
    rw [hsibling] at hiff
    exact Bool.eq_false_iff.mpr fun htrue =>
      not_prefix_sibling front rest name hsuffix (hiff.mp htrue).1
  · intro below hfile
    obtain ⟨bytes, hget⟩ := id hfile
    have hboth := proper.root.names hget
    have hbelow := (List.forall_mem_append.mp hboth).2
    exact ⟨AssetFolder.below_outcome unlimited hnames hfile ⟨.relative, below⟩ hbelow rfl,
      AssetFolder.below_outcome unlimited hnames hfile ⟨.single, _⟩ hboth rfl⟩

theorem asset_offered_iff_sibling :
    let assets := FileTree.directory [("logo.png", .file [])]
    let old := FileTree.directory [("key.pem", .file [])]
    let fs : FileSystem := ⟨.directory [("srv", .directory [("assets", assets),
      ("assets-old", old)])], ["srv"], .unlimited⟩
    fs.Proper ∧ fs.limits = .unlimited ∧ '\x00' ∉ "assets".toList ∧
    ∃ folder, AssetFolder.ofName fs (.ofString "assets") = .ok folder ∧
      (folder.loader (.asset "../assets-old/key.pem")).outcome = .ok false ∧
      (folder.loader (.asset "logo.png")).outcome = .ok true := by
  intro assets old fs
  have hlimits : fs.limits = .unlimited := rfl
  have hnullless : '\x00' ∉ "assets".toList := by decide
  have hproper : fs.Proper := by
    have hassets : assets.Proper := .directory (by decide) (by simp [FileTree.Proper.file])
    have hold : old.Proper := .directory (by decide) (by simp [FileTree.Proper.file])
    have hsrv : (FileTree.directory [("assets", assets), ("assets-old", old)]).Proper :=
      .directory (by decide) (by simp [hassets, hold])
    exact ⟨.directory (by decide) (by simp [hsrv]), _, rfl⟩
  obtain ⟨folder, hfolder, -, hlocation, hbelow⟩ := asset_offered_iff hproper hlimits hnullless
  have hplace : folder = ⟨fs, ["srv", "assets"]⟩ := by
    cases hfolder
    rfl
  subst hplace
  obtain ⟨place, ok, hgoal, hok, -, hsibling⟩ := hlocation "../assets-old/key.pem" (by decide)
  have hleads : ["srv", "assets-old", "key.pem"] = place := by
    refine (hgoal _).mp ⟨.single ?_, ?_⟩
    · have hplain : Plain "assets" := by decide
      exact Shortens.above ["srv"] ["assets-old", "key.pem"] hplain
    · decide
  refine ⟨hproper, hlimits, hnullless, _, hfolder, ?_, ?_⟩
  · rw [hok, hsibling ["srv"] "assets" "-old" ["key.pem"] rfl (by decide) hleads.symm]
  · exact (hbelow ["logo.png"] ⟨[], rfl⟩).1

end ServerUi
