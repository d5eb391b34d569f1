import ServerUi.File.Tree
import ServerUi.Settings.Basic
import ServerUi.Toml.Document

/-! Loading settings from a file. Without a given file, `sdui.toml` in the working directory is
taken if it is there. -/

namespace ServerUi

inductive SettingsFileFlaw where
  | missing
  | syntaxError
  | settings (errors : List SettingError)

/-- Why no settings are loaded. Only the first kind is an error of settings; the others come from
what is asked for on the way. -/
inductive SettingsFileError where
  | flawed (source : PathName) (flaw : SettingsFileFlaw)
  | encoding
  | longInteger (digits : Nat)
  | tooDeep
  | unreadable (why : Unreadable) (name : String)

def SettingsFileFlaw.message : SettingsFileFlaw → String
  | missing => "manifest file not found"
  | syntaxError => "invalid TOML"
  | settings _ => "invalid settings"

def SettingsFileError.message : SettingsFileError → String
  | flawed source flaw => s!"{source.text}: {flaw.message}"
  | encoding => ""
  | longInteger digits => (JsonFlaw.longInteger digits).message
  | tooDeep => "maximum recursion depth exceeded"
  | unreadable why name => (Fault.file why name).message

namespace Settings

def parse (room : Option Nat) (source : PathName) (cs : List Char) :
    Except SettingsFileError Settings :=
  match Toml.readDocument room cs with
  | .error .invalid => .error (.flawed source .syntaxError)
  | .error (.longInteger digits) => .error (.longInteger digits)
  | .error .tooDeep => .error .tooDeep
  | .ok entries =>
    match validate (Toml.table entries).given with
    | .ok settings => .ok settings
    | .error errors => .error (.flawed source (.settings errors))

/-- A directory of assets is seen from the directory of the file that names it. -/
def seenFrom (source : PathName) (settings : Settings) : Settings :=
  { settings with assets := settings.assets.map source.parent.join }

def ofFile (fs : FileSystem) (source : PathName) : Except SettingsFileError Settings :=
  match fs.read source with
  | .error why => .error (.unreadable why source.text)
  | .ok bytes =>
    match Utf8.decode bytes with
    | .error _ => .error .encoding
    | .ok cs => seenFrom source <$> parse fs.limits.room source cs

def defaultFile (fs : FileSystem) : PathName := ⟨.single, fs.cwd ++ ["sdui.toml"]⟩

def isThere (fs : FileSystem) (source : PathName) : Except SettingsFileError Bool :=
  (fs.isFile source).mapError (.unreadable · source.text)

/-- The settings of a given file, or those of the default file, which may be missing. -/
def load (fs : FileSystem) (source : Option PathName) : Except SettingsFileError Settings := do
  match source with
  | some source =>
    if ← isThere fs source then ofFile fs source else throw (.flawed source .missing)
  | none =>
    if ← isThere fs (defaultFile fs) then ofFile fs (defaultFile fs) else return default

end Settings

end ServerUi
