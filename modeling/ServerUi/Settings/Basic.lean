import ServerUi.File.Path
import ServerUi.Json.Basic
import ServerUi.Text.Letters
import ServerUi.Toml.Basic

/-! The settings of a host, and validating what is given for them. -/

namespace ServerUi

/-- Which store rendering starts from: one that keeps nothing, or one that remembers. -/
inductive StoreKind where
  | ephemeral
  | memory
  deriving DecidableEq

namespace StoreKind

def name : StoreKind → String
  | ephemeral => "ephemeral"
  | memory => "memory"

def ofName? : String → Option StoreKind
  | "ephemeral" => some ephemeral
  | "memory" => some memory
  | _ => none

end StoreKind

structure Settings where
  assets : Option PathName
  state : StoreKind
  level : String
  deriving DecidableEq

/-- A value given for a setting, as far as validation tells values apart. -/
inductive Given where
  | null
  | text (s : String)
  | table (entries : List (String × Given))
  | other

mutual

def Json.given : Json → Given
  | .null => .null
  | .str s => .text s
  | .obj members => .table (givenMembers members)
  | _ => .other

def Json.givenMembers : List (String × Json) → List (String × Given)
  | [] => []
  | (k, v) :: rest => (k, v.given) :: givenMembers rest

end

mutual

def Toml.given : Toml → Given
  | .text s => .text s
  | .table entries => .table (givenEntries entries)
  | _ => .other

def Toml.givenEntries : List (String × Toml) → List (String × Given)
  | [] => []
  | (k, v) :: rest => (k, v.given) :: givenEntries rest

end

inductive SettingFlaw where
  | table
  | path
  | choice
  | text
  | level
  deriving DecidableEq

/-- A value that is not accepted, by its place. -/
structure SettingError where
  place : List String
  flaw : SettingFlaw
  deriving DecidableEq

namespace Settings

def levels : List String :=
  ["CRITICAL", "FATAL", "ERROR", "WARN", "WARNING", "INFO", "DEBUG", "NOTSET"]

/-- The level that a text names in upper or lower case. -/
def level? (s : String) : Option String :=
  if levels.contains (uppered s) then some (uppered s) else none

def default : Settings := ⟨none, .ephemeral, "WARNING"⟩

abbrev Checked (α : Type) := Except SettingFlaw α

def checkAssets : Option Given → Checked (Option PathName)
  | none | some .null => .ok none
  | some (.text s) => .ok (some (.ofString s))
  | some _ => .error .path

def checkStore : Option Given → Checked StoreKind
  | none => .ok .ephemeral
  | some (.text s) =>
    match StoreKind.ofName? s with
    | some mode => .ok mode
    | none => .error .choice
  | some _ => .error .choice

def checkLevel : Option Given → Checked String
  | none => .ok "WARNING"
  | some (.text s) =>
    match level? s with
    | some level => .ok level
    | none => .error .level
  | some _ => .error .text

def checkTable : Option Given → Checked (List (String × Given))
  | none => .ok []
  | some (.table entries) => .ok entries
  | some _ => .error .table

/-- What is wrong with a checked value, at its place. -/
def errorAt (place : List String) (checked : Checked α) : List SettingError :=
  match checked with
  | .ok _ => []
  | .error flaw => [⟨place, flaw⟩]

/-- The settings for rendering, or everything that is wrong with them. -/
def checkRender (given : Option Given) :
    Except (List SettingError) (Option PathName × StoreKind) :=
  match checkTable given with
  | .error flaw => .error [⟨["render"], flaw⟩]
  | .ok entries =>
    match checkAssets (entries.lookup "assets_dir"), checkStore (entries.lookup "state") with
    | .ok assets, .ok state => .ok (assets, state)
    | assets, state =>
      .error (errorAt ["render", "assets_dir"] assets ++ errorAt ["render", "state"] state)

def checkLogging (given : Option Given) : Except (List SettingError) String :=
  match checkTable given with
  | .error flaw => .error [⟨["logging"], flaw⟩]
  | .ok entries =>
    match checkLevel (entries.lookup "level") with
    | .ok level => .ok level
    | .error flaw => .error [⟨["logging", "level"], flaw⟩]

/-- Validates all settings; every error is told, in the order of the settings. -/
def validate (given : Given) : Except (List SettingError) Settings :=
  match given with
  | .table entries =>
    match checkRender (entries.lookup "render"), checkLogging (entries.lookup "logging") with
    | .ok (assets, state), .ok level => .ok ⟨assets, state, level⟩
    | .error errors, .ok _ => .error errors
    | .ok _, .error errors => .error errors
    | .error errors, .error more => .error (errors ++ more)
  | _ => .error [⟨[], .table⟩]

/-- The log level in effect: that of the environment if it names one, else that of the settings. -/
def effectiveLevel (x : Settings) (environment : Option String) : String :=
  (environment.bind level?).getD x.level

end Settings

end ServerUi
