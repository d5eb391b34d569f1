import ServerUi.Proofs.Builder.Outcomes
import ServerUi.Proofs.Image.Assets
import ServerUi.Proofs.Render.Document

/-! What is shown for an image node that leaves its sizes open, under a host with a folder of assets:
the image or a placeholder in its place, as long as the folder has an answer for the source. Addresses
whose host cannot be split, and assets whose name cannot be encoded or looked up, have none. -/

namespace ServerUi

namespace Url

def hostOf (location : String) : List Char := hostPart (splitScheme (cleaned location.toList)).2

/-- A host that is a fault to be split. -/
inductive Unsplit (host : List Char) : Prop where
  | delimiter {c : Char} (hc : c ∈ host) (hform : c.toNat ∈ delimiterForms)
  | unpaired (h : '[' ∈ host ↔ ']' ∉ host)
  | address (hopened : '[' ∈ host) (hclosed : ']' ∈ host) (h : (addressFault? host).isSome)

theorem hostFault?_isSome_iff (host : List Char) : (hostFault? host).isSome ↔ Unsplit host := by
  have hforms : (host.any fun c => delimiterForms.contains c.toNat) = true ↔
      ∃ c ∈ host, c.toNat ∈ delimiterForms := by
    simp only [List.any_eq_true, List.contains_iff_mem]
  constructor
  · intro h
    rw [hostFault?, Option.isSome_or, Bool.or_eq_true] at h
    rcases h with hbrackets | hdelimiter
    · by_cases hopened : '[' ∈ host
      · by_cases hclosed : ']' ∈ host
        · simp only [List.contains_iff_mem.mpr hopened, List.contains_iff_mem.mpr hclosed,
            Bool.and_true, if_true] at hbrackets
          exact .address hopened hclosed hbrackets
        · exact .unpaired (iff_of_true hopened hclosed)
      · by_cases hclosed : ']' ∈ host
        · exact .unpaired (iff_of_false hopened (not_not_intro hclosed))
        · simp [hopened, hclosed] at hbrackets
    · split at hdelimiter
      · next hany =>
        obtain ⟨c, hc, hform⟩ := hforms.mp hany
        exact .delimiter hc hform
      · cases hdelimiter
  · intro h
    rw [hostFault?, Option.isSome_or, Bool.or_eq_true]
    cases h with
    | delimiter hc hform =>
      rw [if_pos (hforms.mpr ⟨_, hc, hform⟩)]
      exact .inr rfl
    | unpaired h =>
      left
      by_cases hopened : '[' ∈ host
      · have hclosed := h.mp hopened
        simp [hopened, hclosed]
      · have hclosed := not_not.mp fun hnot => hopened (h.mpr hnot)
        simp [hopened, hclosed]
    | address hopened hclosed h =>
      left
      simp only [List.contains_iff_mem.mpr hopened, List.contains_iff_mem.mpr hclosed,
        Bool.and_true, if_true]
      exact h

theorem ofString_fails_iff (location : String) :
    (∃ fault, ofString location = .error fault) ↔ Unsplit (hostOf location) := by
  rw [← hostFault?_isSome_iff, Option.isSome_iff_exists, hostOf]
  unfold ofString
  dsimp only
  cases hostFault? (hostPart (splitScheme (cleaned location.toList)).2) with
  | none => simp
  | some fault => simp

end Url

namespace AssetFolder

/-- A source that asking the folder for is a fault. -/
inductive Unanswered (folder : AssetFolder) : ImageSource → Prop where
  | host {location : String} (h : Url.Unsplit (Url.hostOf location)) :
    Unanswered folder (.url location)
  | unencodable {location part : String} {c : Char} (hpart : part ∈ components location)
    (hkept : part ≠ ".") (hc : c ∈ part.toList) (h : folder.files.limits.unencodable c = true) :
    Unanswered folder (.asset location)
  | null {location : String} (h : '\x00' ∈ location.toList) : Unanswered folder (.asset location)
  | barred {location : String} {place : List String} (hplace : LeadsTo folder.place location place)
    (hbelow : folder.place <+: place)
    (h : Limits.exceeds (PathName.text ⟨.single, place⟩) folder.files.limits.whole = true ∨
      folder.files.Barred [] place) : Unanswered folder (.asset location)

theorem ofName_names {fs : FileSystem} (proper : fs.Proper) {name : String} {folder : AssetFolder}
    (h : ofName fs (.ofString name) = .ok folder) : ∀ part ∈ folder.place, IsName part := by
  obtain ⟨hnull, -, hplace⟩ := ofName_eq_ok h
  rw [hplace]
  exact PathName.place_names proper.cwd_names hnull

theorem not_url_eq_asset (address name : String) : ImageSource.url address ≠ .asset name := by
  intro h
  have hkind : "url" = "asset" := congrArg ImageSource.kind h
  exact absurd hkind (by decide)

section Fails

variable {folder : AssetFolder}

theorem url_fails_iff (location : String) :
    (∃ fault, folder.offers (.url location) = .error fault) ↔ folder.Unanswered (.url location) := by
  have hmap : (∃ fault, Url.isWeb <$> Url.ofString location = .error fault) ↔
      ∃ fault, Url.ofString location = .error fault := by
    cases Url.ofString location <;> simp
  rw [offers_url, hmap, Url.ofString_fails_iff]
  constructor
  · exact .host
  · generalize hsource : ImageSource.url location = source
    intro h
    cases h with
    | host h =>
      obtain rfl : location = _ := congrArg ImageSource.location hsource
      exact h
    | unencodable => exact absurd hsource (not_url_eq_asset _ _)
    | null => exact absurd hsource (not_url_eq_asset _ _)
    | barred => exact absurd hsource (not_url_eq_asset _ _)

theorem asset_unanswered_iff (names : ∀ part ∈ folder.place, IsName part) (location : String) :
    folder.Unanswered (.asset location) ↔
      ((∃ part ∈ (PathName.ofString location).parts, ∃ c ∈ part.toList,
          folder.files.limits.unencodable c = true) ∨
        (PathName.ofString location).hasNull = true) ∨
      let place := (PathName.ofString location).place folder.place
      folder.place <+: place ∧
        (Limits.exceeds (PathName.text ⟨.single, place⟩) folder.files.limits.whole = true ∨
          folder.files.Barred [] place) := by
  have hleads := leadsTo_iff fun part hpart => (names part hpart).plain
  rw [PathName.hasNull_ofString_iff, PathName.ofString_parts]
  constructor
  · generalize hsource : ImageSource.asset location = source
    intro h
    cases h with
    | host h => exact absurd hsource.symm (not_url_eq_asset _ _)
    | @unencodable _ part c hpart hkept hc h =>
      obtain rfl : location = _ := congrArg ImageSource.location hsource
      have hempty : part ≠ "" := by
        rintro rfl
        cases hc
      exact .inl (.inl ⟨part, List.mem_filter.mpr ⟨hpart, decide_eq_true ⟨hempty, hkept⟩⟩, c, hc, h⟩)
    | null h =>
      obtain rfl : location = _ := congrArg ImageSource.location hsource
      exact .inl (.inr h)
    | barred hplace hbelow h =>
      obtain rfl : location = _ := congrArg ImageSource.location hsource
      rw [(hleads _ _).mp hplace] at hbelow h
      exact .inr ⟨hbelow, h⟩
  · rintro ((⟨part, hpart, c, hc, h⟩ | hnull) | ⟨hbelow, h⟩)
    · obtain ⟨hpart, hkept⟩ := List.mem_filter.mp hpart
      exact .unencodable hpart (of_decide_eq_true hkept).2 hc h
    · exact .null hnull
    · exact .barred ((hleads location _).mpr rfl) hbelow h

theorem asset_fails_iff (names : ∀ part ∈ folder.place, IsName part) (location : String) :
    (∃ fault, folder.offers (.asset location) = .error fault) ↔
      folder.Unanswered (.asset location) := by
  rw [asset_unanswered_iff names, ← PathName.resolve_fails_iff, offers_asset]
  cases hresolve : (PathName.ofString location).resolve folder.files.limits.unencodable
      folder.place with
  | error fault => exact iff_of_true ⟨fault, rfl⟩ (.inl ⟨fault, rfl⟩)
  | ok place =>
    have hplace := PathName.place_names names (PathName.hasNull_of_resolve hresolve)
    obtain rfl := PathName.resolve_eq_ok hresolve
    rw [or_iff_right (by rintro ⟨_, ⟨⟩⟩), ok_bind, holds]
    dsimp only
    by_cases hbelow : folder.place <+: (PathName.ofString location).place folder.place
    · rw [if_pos (List.isPrefixOf_iff_prefix.mpr hbelow), and_iff_right hbelow,
        ← FileSystem.isFile_fails_iff hplace]
      cases folder.files.isFile ⟨.single, (PathName.ofString location).place folder.place⟩ with
      | error why => exact iff_of_true ⟨_, rfl⟩ ⟨why, rfl⟩
      | ok there => exact iff_of_false (by rintro ⟨_, ⟨⟩⟩) (by rintro ⟨_, ⟨⟩⟩)
    · rw [if_neg (mt List.isPrefixOf_iff_prefix.mp hbelow)]
      exact iff_of_false (by simp) fun hboth => hbelow hboth.1

end Fails

end AssetFolder

/-- A node asks for an image without saying how large it is to be. Its address goes before its
asset. -/
structure Config.AsksFor (config : Config) (source : ImageSource) : Prop where
  type : config.name? "type" = some "image"
  source : (∃ url, config.get "url" = .str url ∧ source = .url url ∧
      (config.get "asset" = .null ∨ ∃ asset, config.get "asset" = .str asset)) ∨
    config.get "url" = .null ∧ ∃ asset, config.get "asset" = .str asset ∧ source = .asset asset
  width : config.get "width" = .null
  height : config.get "height" = .null
  fit : config.get "fit" = .null

section Shown

variable {folder : AssetFolder} {config : Config} {source : ImageSource}

theorem imageSource_eq (h : config.AsksFor source) :
    Builder.imageSource config = .ok (some source) := by
  rw [Builder.imageSource, Config.text, Config.text]
  rcases h.source with ⟨url, hurl, rfl, hasset | ⟨asset, hasset⟩⟩ | ⟨hurl, asset, hasset, rfl⟩
  all_goals
    rw [hurl, hasset]
    rfl

theorem fails_iff (names : ∀ part ∈ folder.place, IsName part) (h : config.AsksFor source) :
    (∃ fault, folder.offers source = .error fault) ↔ folder.Unanswered source := by
  rcases h.source with ⟨url, -, rfl, -⟩ | ⟨-, asset, -, rfl⟩
  · exact AssetFolder.url_fails_iff url
  · exact AssetFolder.asset_fails_iff names asset

/-- The image, if it is offered, or a placeholder. -/
def offeredImage (source : ImageSource) (offered : Bool) : Widget :=
  if offered then .leaf (.image source none none none (some (.ofSize none none)))
  else (Placeholder.ofSize none none).widget

/-- The folder's answer, or its fault, decides what an image node is rendered to. -/
theorem image_value (h : config.AsksFor source) (path : Path) (s : Store) :
    ((Host.standard (some folder.loader)).render (.obj config) path s).value =
      inPlace ((some ∘ offeredImage source) <$> folder.offers source) := by
  have hform : Form.ofTag? (some folder.loader) "image" config =
      some (.still ((Builder.image config).reading (some folder.loader))) := rfl
  have hloading : (Build.loading (some folder.loader) source).outcome = folder.offers source :=
    folder.loader_outcome source
  have hsize : (Style.dimension .null).outcome = .ok none := rfl
  have hfit : (Style.choice BoxFit .null).outcome = .ok none := rfl
  have hread : ((Builder.image config).reading (some folder.loader)).outcome =
      (some ∘ offeredImage source) <$> folder.offers source := by
    rw [image_outcome, imageSource_eq h, ok_bind]
    simp only [h.width, h.height, h.fit, hsize, hfit, hloading, ok_bind]
    cases folder.offers source with
    | error fault => rfl
    | ok offered => cases offered <;> rfl
  rw [render_value h.type hform, Form.content, hread]
  cases folder.offers source <;> rfl

end Shown

/-- An image node with no sizes of its own is shown as the image, if the folder offers it, or as a
placeholder, unless the folder has no answer for the source; then it is an error. -/
theorem image_shown {fs : FileSystem} (proper : fs.Proper) {directory : String}
    {folder : AssetFolder} (hfolder : AssetFolder.ofName fs (.ofString directory) = .ok folder)
    {config : Config} {source : ImageSource} (hasks : config.AsksFor source) (path : Path)
    (s : Store) :
    let shown := ((Host.standard (some folder.loader)).render (.obj config) path s).value
    (folder.Unanswered source →
      ∃ fault, shown = some (.error (NodeError.failed fault).message)) ∧
    (¬ folder.Unanswered source →
      ∃ offered, folder.offers source = .ok offered ∧ shown = some (offeredImage source offered)) := by
  intro shown
  have hshown : shown = inPlace ((some ∘ offeredImage source) <$> folder.offers source) :=
    image_value hasks path s
  rw [← fails_iff (AssetFolder.ofName_names proper hfolder) hasks]
  constructor
  · rintro ⟨fault, hfault⟩
    rw [hfault] at hshown
    exact ⟨fault, hshown⟩
  · intro hnot
    cases hoffers : folder.offers source with
    | error fault => exact absurd ⟨fault, hoffers⟩ hnot
    | ok offered =>
      rw [hoffers] at hshown
      exact ⟨offered, rfl, hshown⟩

theorem image_shown_bracket :
    let fs : FileSystem := ⟨.directory [("srv", .directory [])], ["srv"], .usual⟩
    let folder : AssetFolder := ⟨fs, ["srv", "assets"]⟩
    let config : Config := [("type", .str "image"), ("url", .str "http://[")]
    fs.Proper ∧ AssetFolder.ofName fs (.ofString "assets") = .ok folder ∧
    config.AsksFor (.url "http://[") ∧ folder.Unanswered (.url "http://[") ∧
    ∃ fault, ((Host.standard (some folder.loader)).render (.obj config) [] .ephemeral).value =
      some (.error (NodeError.failed fault).message) := by
  intro fs folder config
  have hproper : fs.Proper := by
    have hsrv : (FileTree.directory []).Proper := .directory (by simp) (by simp)
    exact ⟨.directory (by decide) (by simp [hsrv]), _, rfl⟩
  have hfolder : AssetFolder.ofName fs (.ofString "assets") = .ok folder := rfl
  have hasks : config.AsksFor (.url "http://[") :=
    ⟨rfl, .inl ⟨_, rfl, rfl, .inl rfl⟩, rfl, rfl, rfl⟩
  have hhost : Url.hostOf "http://[" = ['['] := rfl
  have hunanswered : folder.Unanswered (.url "http://[") := by
    refine .host (.unpaired ?_)
    rw [hhost]
    exact iff_of_true List.mem_cons_self (by simp)
  have hshown := image_shown hproper hfolder hasks [] .ephemeral
  exact ⟨hproper, hfolder, hasks, hunanswered, hshown.1 hunanswered⟩

/-- A bracket that is not closed makes an error of an image node. -/
theorem image_unshown :
    ¬ ∀ (fs : FileSystem) (directory : String) (folder : AssetFolder) (config : Config)
      (source : ImageSource), fs.Proper →
      AssetFolder.ofName fs (.ofString directory) = .ok folder → config.AsksFor source →
      ∃ offered, ((Host.standard (some folder.loader)).render (.obj config) [] .ephemeral).value =
        some (offeredImage source offered) := by
  intro h
  let fs : FileSystem := ⟨.directory [], [], .usual⟩
  let config : Config := [("type", .str "image"), ("url", .str "http://[")]
  have hproper : fs.Proper := ⟨.directory (by simp) (by simp), _, rfl⟩
  have hasks : config.AsksFor (.url "http://[") :=
    ⟨rfl, .inl ⟨_, rfl, rfl, .inl rfl⟩, rfl, rfl, rfl⟩
  obtain ⟨offered, hshown⟩ := h fs "assets" ⟨fs, ["assets"]⟩ config _ hproper rfl hasks
  have hfails : AssetFolder.offers ⟨fs, ["assets"]⟩ (.url "http://[") = .error .hostBrackets := rfl
  rw [image_value hasks, hfails] at hshown
  cases offered <;> cases hshown

end ServerUi
