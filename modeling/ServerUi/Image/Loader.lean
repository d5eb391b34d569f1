import ServerUi.File.Tree
import ServerUi.Image.Url
import ServerUi.Report
import ServerUi.Widget.Basic

/-! Whether an image can be shown. Addresses are checked by their form only; an asset has to be a
file in the directory of assets, or below it. -/

namespace ServerUi

structure AssetFolder where
  files : FileSystem
  place : List String

namespace AssetFolder

def ofName (fs : FileSystem) (name : PathName) : Except Fault AssetFolder := do
  return ⟨fs, ← name.resolve fs.limits.unencodable fs.cwd⟩

/-- Whether a place is a file in the folder or below it. -/
def holds (folder : AssetFolder) (place : List String) : Except Fault Bool :=
  let name : PathName := ⟨.single, place⟩
  if folder.place.isPrefixOf place then (folder.files.isFile name).mapError (.file · name.text)
  else .ok false

def offers (folder : AssetFolder) (source : ImageSource) : Except Fault Bool :=
  if source.kind = "url" then Url.isWeb <$> Url.ofString source.location
  else do
    let place ← (PathName.ofString source.location).resolve folder.files.limits.unencodable
      folder.place
    folder.holds place

/-- The loader of a folder; a source that it rejects is reported. -/
def loader (folder : AssetFolder) (source : ImageSource) : Report Bool := do
  let ok ← folder.offers source
  if ok then return true
  else do
    Report.note (.imageRejected source.kind source.location)
    return false

end AssetFolder

end ServerUi
