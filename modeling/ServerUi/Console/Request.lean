import ServerUi.Console.Options
import ServerUi.File.Path

/-! The commands: `render` shows a document, `types` lists the types of nodes. In front of a command
stand the options of the program itself. -/

namespace ServerUi

structure RenderOrder where
  document : PathName
  settings : Option PathName
  json : Bool
  strict : Bool
  deriving DecidableEq

inductive Request where
  | version
  | help
  | types
  | render (order : RenderOrder)
  deriving DecidableEq

inductive ProgramOption where
  | version
  | help
  deriving DecidableEq

namespace ProgramOption

def known : Options ProgramOption where
  long := fun
    | "version" => some version
    | "help" => some help
    | _ => none
  short := fun _ => none
  takesValue := fun _ => false

def request : ProgramOption → Request
  | version => .version
  | help => .help

end ProgramOption

inductive RenderOption where
  | settings
  | json
  | strict
  | help
  deriving DecidableEq

namespace RenderOption

def known : Options RenderOption where
  long := fun
    | "config" => some settings
    | "json" => some json
    | "strict" => some strict
    | "help" => some help
    | _ => none
  short := fun
    | 'c' => some settings
    | _ => none
  takesValue := fun o => o = settings

end RenderOption

inductive TypesOption where
  | help
  deriving DecidableEq

def TypesOption.known : Options TypesOption where
  long := fun
    | "help" => some help
    | _ => none
  short := fun _ => none
  takesValue := fun _ => false

namespace Request

/-- The name of a file, in which no null character may stand. -/
def fileName (s : String) : Except UsageError PathName :=
  let name := PathName.ofString s
  if name.hasNull then .error .nullCharacter else .ok name

def ofRender (args : List String) : Except UsageError Request := do
  let x ← RenderOption.known.read true args
  if x.has .help then return .help
  let settings ← (x.value? .settings).mapM fileName
  match x.rest with
  | [] => throw .argumentMissing
  | name :: more =>
    let document ← fileName name
    if !more.isEmpty then throw .argumentUnexpected
    return .render ⟨document, settings, x.has .json, x.has .strict⟩

def ofTypes (args : List String) : Except UsageError Request := do
  let x ← TypesOption.known.read true args
  if x.has .help then return .help
  if !x.rest.isEmpty then throw .argumentUnexpected
  return .types

/-- What an unknown command asks for after all, if it is an option that stands behind `--`. -/
def ofUnknown (args : List String) : Except UsageError Request := do
  let x ← ProgramOption.known.read false args
  match x.options with
  | (o, _) :: _ => return o.request
  | [] => throw .commandUnknown

/-- Of the options in front of the command, the first decides. -/
def ofArguments (args : List String) : Except UsageError Request := do
  let x ← ProgramOption.known.read false args
  match x.options, x.rest with
  | (o, _) :: _, _ => return o.request
  | [], [] => throw .commandMissing
  | [], "render" :: args => ofRender args
  | [], "types" :: args => ofTypes args
  | [], args => ofUnknown args

end Request

end ServerUi
