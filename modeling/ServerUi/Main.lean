import ServerUi.Console.Run

/-! The program. It looks up the files that a command can ask for, runs the command on them, and
writes what there is to show. -/

namespace ServerUi.Program

def usage : String :=
  "Usage: sdui [--version] [--help] (types | render DOCUMENT [--config PATH] [--json] [--strict])"

def placeText (place : List String) : String := "/" ++ "/".intercalate place

/-- Adds a tree where nothing is known yet. -/
def add (fs : FileSystem) (place : List String) (t : FileTree) : FileSystem :=
  if (fs.root.get? place).isSome then fs else { fs with root := fs.root.put place t }

def namesIn (place : List String) : IO (List String) := do
  let entries ← (← IO.currentDir) / placeText place |>.readDir
  return entries.toList.map (·.fileName)

def close (fs : FileSystem) (place : List String) : FileSystem :=
  let closed (other : List String) : Bool := other = place || fs.limits.closed other
  { fs with limits := { fs.limits with closed } }

/-- Looks up what is at a place: a directory, a file, or nothing. Either may be closed. -/
def lookAt (fs : FileSystem) (place : List String) : IO FileSystem := do
  try
    discard <| namesIn place
    return add fs place (.directory [])
  catch
  | .permissionDenied .. => return close (add fs place (.directory [])) place
  | _ =>
    try return add fs place (.file (← IO.FS.readBinFile (placeText place)).toList)
    catch
    | .permissionDenied .. => return close (add fs place (.file [])) place
    | _ => return fs

/-- Looks up what a name leads to, and every directory on the way. -/
def lookUp (fs : FileSystem) (name : PathName) : IO FileSystem :=
  (List.range (name.parts.length + 1)).foldlM (fun fs n =>
    lookAt fs (PathName.place fs.cwd { name with parts := name.parts.take n })) fs

/-- Looks up all names below a place, but not the content of files. -/
partial def lookBelow (fs : FileSystem) (place : List String) : IO FileSystem := do
  try
    let names ← namesIn place
    names.foldlM (fun fs name => lookBelow fs (place ++ [name])) (add fs place (.directory []))
  catch _ => return add fs place (.file [])

/-- The files that rendering depends on. -/
def filesOf (fs : FileSystem) (order : RenderOrder) : IO FileSystem := do
  let fs ← lookUp fs order.document
  let fs ← lookUp fs (order.settings.getD (Settings.defaultFile fs))
  match Settings.load fs order.settings with
  | .ok ⟨some assets, _, _⟩ => do
    let fs ← lookUp fs assets
    lookBelow fs (assets.place fs.cwd)
  | _ => return fs

def files (args : List String) : IO FileSystem := do
  let cwd := (PathName.ofString (← IO.currentDir).toString).parts
  let fs : FileSystem := ⟨.directory [], cwd, .usual⟩
  match Request.ofArguments args with
  | .ok (.render order) => filesOf (add fs cwd (.directory [])) order
  | _ => return fs

def write (display : Display) : IO Unit :=
  match display with
  | .nothing => return
  | .text s => IO.print s
  | .panel title text => IO.println s!"{title}\n{text}"

/-- How to use the program, where that is asked for or not known. -/
def explain (args : List String) : IO Unit :=
  match Request.ofArguments args with
  | .ok .help => IO.println usage
  | .error _ => IO.eprintln usage
  | _ => return

def exitCode : Ending → UInt32
  | .exit code => code.toUInt32
  | .crash _ => 1

end ServerUi.Program

open ServerUi in
def main (args : List String) : IO UInt32 := do
  let files ← Program.files args
  let run := Run.ofArguments files (← IO.getEnv "SDUI_LOG_LEVEL") args
  Program.explain args
  Program.write run.display
  run.log.forM fun line => IO.eprintln line
  return Program.exitCode run.ending
