import ServerUi.Json.Basic

/-! The shapes of actions, and reading an action by its shape. -/

namespace ServerUi

/-- A shape: a message that may be missing under one of two names, or a target to go to. -/
inductive ActionModel where
  | log
  | snackbar
  | navigate
  deriving DecidableEq

inductive Action where
  | log (message : Option String)
  | snackbar (message : Option String)
  | navigate (target : String)

namespace ActionModel

/-- The type that an action of the shape has to name. -/
def name : ActionModel → String
  | log => "log"
  | snackbar => "snackbar"
  | navigate => "navigate"

end ActionModel

namespace Action

/-- A field of an action by its name, if its shape has one; what it holds may be missing. -/
def field? : Action → String → Option (Option String)
  | log _, "type" => some (some "log")
  | snackbar _, "type" => some (some "snackbar")
  | navigate _, "type" => some (some "navigate")
  | log message, "message" | snackbar message, "message" => some message
  | navigate target, "to" => some (some target)
  | _, _ => none

def model : Action → ActionModel
  | log _ => .log
  | snackbar _ => .snackbar
  | navigate _ => .navigate

/-- The message of an action; one that is missing or empty has a stand-in. -/
def messageOr (default : String) : Action → String
  | log (some s) | snackbar (some s) => if s = "" then default else s
  | _ => default

end Action

namespace ActionModel

/-- A message; it may be missing or null. -/
def message? (config : Config) : Option (Option String) :=
  match config.get "message" with
  | .null => some none
  | .str s => some (some s)
  | _ => none

def target? (config : Config) : Option String :=
  match config.get "to" with
  | .str s => some s
  | _ => none

def payload? (model : ActionModel) (config : Config) : Option Action :=
  match model with
  | log => (message? config).map .log
  | snackbar => (message? config).map .snackbar
  | navigate => (target? config).map .navigate

def namesType (model : ActionModel) (config : Config) : Bool :=
  match config.get "type" with
  | .str s => s == model.name
  | _ => false

/-- An action by its shape, or the number of fields that do not fit. -/
def read (model : ActionModel) (config : Config) : Except Nat Action :=
  let typeErrors := if model.namesType config then 0 else 1
  match model.payload? config with
  | some action => if typeErrors = 0 then .ok action else .error typeErrors
  | none => .error (typeErrors + 1)

end ActionModel

end ServerUi
