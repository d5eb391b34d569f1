import ServerUi.Action.Model
import ServerUi.Notice

/-! Carrying out the action of a pressed button. Whatever the action is and whatever a handler does,
what goes wrong is only logged, so that a press fails with its log if at all. -/

namespace ServerUi

/-- The messages that a host shows, some of which may be missing. -/
abbrev Shown := List (Option String)

/-- The host's own code: it shows messages or fails. -/
abbrev Custom (α : Type) := α → Except Fault Shown

inductive Handler where
  | log
  | snackbar
  | custom (run : Custom Action)

inductive Call where
  | handler (kind : String)
  | snackbar (message : String)
  deriving DecidableEq

structure Press where
  notices : List Notice
  calls : List Call
  shown : Shown

/-- The handlers by type of action; without a snackbar of the host, messages for it are logged. -/
structure Dispatcher where
  snackbar : Option (Custom String)
  handlers : List (String × ActionModel × Handler)

namespace Dispatcher

def standard (snackbar : Option (Custom String)) : Dispatcher :=
  ⟨snackbar, [("log", .log, .log), ("snackbar", .snackbar, .snackbar)]⟩

def register (d : Dispatcher) (kind : String) (model : ActionModel) (handler : Handler) :
    Dispatcher :=
  { d with handlers := (kind, model, handler) :: d.handlers.filter (·.1 != kind) }

/-- A handler at work: what it logs, what it calls, and what it shows unless it fails. -/
def handle (d : Dispatcher) (handler : Handler) (action : Action) :
    List Notice × List Call × Except Fault Shown :=
  match handler with
  | .log => ([.pressed (action.messageOr "No message")], [], .ok [])
  | .snackbar =>
    let message := action.messageOr "Button pressed"
    match d.snackbar with
    | none => ([.snackbar message], [], .ok [])
    | some show? => ([], [.snackbar message], show? message)
  | .custom run => ([], [], run action)

def perform (d : Dispatcher) (kind : String) (handler : Handler) (action : Action) : Press :=
  match d.handle handler action with
  | (notices, calls, .ok shown) => ⟨notices, .handler kind :: calls, shown⟩
  | (notices, calls, .error fault) =>
    ⟨notices ++ [.actionFailed kind fault, .actionTraceback], .handler kind :: calls, []⟩

/-- Carries out what stands under `action` in a document. -/
def dispatch (d : Dispatcher) : Json → Press
  | .obj config =>
    match Config.get config "type" with
    | .str kind =>
      match d.handlers.lookup kind with
      | none => ⟨[.actionUnknown (.str kind)], [], []⟩
      | some (model, handler) =>
        match model.read config with
        | .error errors => ⟨[.actionInvalid kind errors], [], []⟩
        | .ok action => d.perform kind handler action
    | kind => ⟨[.actionUnknown kind], [], []⟩
  | _ => ⟨[.actionMissing], [], []⟩

end Dispatcher

end ServerUi
