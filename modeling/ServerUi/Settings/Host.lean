import ServerUi.Image.Loader
import ServerUi.Render.Node
import ServerUi.Settings.Basic

/-! The host that settings ask for. -/

namespace ServerUi.Settings

def store (settings : Settings) : Store :=
  match settings.state with
  | .ephemeral => .ephemeral
  | .memory => .memory []

def assetFolder (settings : Settings) (fs : FileSystem) : Except Fault (Option AssetFolder) :=
  match settings.assets with
  | none => .ok none
  | some name => some <$> AssetFolder.ofName fs name

/-- The standard builders, and a loader if a directory of assets is set. -/
def host (settings : Settings) (fs : FileSystem) : Except Fault Host := do
  let folder ← settings.assetFolder fs
  return ⟨.standard, folder.map AssetFolder.loader⟩

end ServerUi.Settings
