import ServerUi.Action.Dispatch
import ServerUi.Proofs.Json.Members
import ServerUi.Proofs.Wording

/-! What becomes of an action. As long as each kind is read by its own shape, an action that asks
for a kind is handed to the handler in force for it, once, and any other action to none. A
dispatcher is known by its wiring: the host's way to show messages and the handlers in force. -/

namespace ServerUi

/-- The kinds of action that every dispatcher knows. -/
inductive ActionKind where
  | log
  | snackbar
  deriving DecidableEq

namespace ActionKind

def model : ActionKind → ActionModel
  | log => .log
  | snackbar => .snackbar

def name (kind : ActionKind) : String := kind.model.name

def action (message : Option String) : ActionKind → Action
  | log => .log message
  | snackbar => .snackbar message

def standardHandler : ActionKind → Handler
  | log => .log
  | snackbar => .snackbar

theorem name_injective {kind other : ActionKind} (h : kind.name = other.name) : kind = other := by
  cases kind <;> cases other
  · rfl
  · exact absurd h (by decide)
  · exact absurd h (by decide)
  · rfl

/-- The text to show for a message; one that is missing or empty has a stand-in. -/
def saying (message : Option String) : String :=
  (message.filter (· ≠ "")).getD "Button pressed"

theorem messageOr_action (message : Option String) (kind : ActionKind) :
    (kind.action message).messageOr "Button pressed" = saying message := by
  rcases message with - | s
  · cases kind <;> rfl
  · by_cases hs : s = "" <;> cases kind <;>
      simp [action, Action.messageOr, saying, Option.filter, hs]

end ActionKind

/-- An action of a kind, whose message is a text, or null or missing. -/
inductive Json.Asks : Json → ActionKind → Option String → Prop where
  | silent {config : Config} {kind : ActionKind} (hkind : config.get "type" = .str kind.name)
      (hmessage : config.get "message" = .null) : Asks (.obj config) kind none
  | message {config : Config} {kind : ActionKind} {s : String}
      (hkind : config.get "type" = .str kind.name) (hmessage : config.get "message" = .str s) :
      Asks (.obj config) kind (some s)

namespace ActionKind

variable {config : Config} {kind : ActionKind}

theorem namesType (hkind : config.get "type" = .str kind.name) :
    kind.model.namesType config = true := by
  rw [ActionModel.namesType, hkind]
  exact beq_self_eq_true _

theorem read_of_message? {message : Option String} (hkind : config.get "type" = .str kind.name)
    (h : ActionModel.message? config = some message) :
    kind.model.read config = .ok (kind.action message) := by
  have hpayload : kind.model.payload? config = some (kind.action message) := by
    cases kind <;> simp only [model, ActionModel.payload?, h, Option.map_some, action]
  simp only [ActionModel.read, namesType hkind, hpayload, if_true]

theorem read_of_message?_none (hkind : config.get "type" = .str kind.name)
    (h : ActionModel.message? config = none) : kind.model.read config = .error 1 := by
  have hpayload : kind.model.payload? config = none := by
    cases kind <;> simp only [model, ActionModel.payload?, h, Option.map_none]
  simp only [ActionModel.read, namesType hkind, hpayload, if_true]

theorem message?_eq_some_iff {message : Option String}
    (hkind : config.get "type" = .str kind.name) :
    ActionModel.message? config = some message ↔ (Json.obj config).Asks kind message := by
  constructor
  · intro h
    rw [ActionModel.message?] at h
    split at h
    · next hmessage =>
      obtain rfl := Option.some.inj h
      exact .silent hkind hmessage
    · next s hmessage =>
      obtain rfl := Option.some.inj h
      exact .message hkind hmessage
    · cases h
  · intro h
    cases h with
    | silent _ hmessage => rw [ActionModel.message?, hmessage]
    | message _ hmessage => rw [ActionModel.message?, hmessage]

end ActionKind

namespace Json.Asks

variable {action : Json} {kind other : ActionKind} {message more : Option String}

theorem exists_config (h : action.Asks kind message) :
    ∃ config : Config, action = .obj config ∧ config.get "type" = .str kind.name ∧
      ActionModel.message? config = some message := by
  obtain ⟨config, rfl, hkind⟩ : ∃ config : Config, action = .obj config ∧
      config.get "type" = .str kind.name := by
    cases h with
    | silent hkind _ => exact ⟨_, rfl, hkind⟩
    | message hkind _ => exact ⟨_, rfl, hkind⟩
  exact ⟨config, rfl, hkind, (ActionKind.message?_eq_some_iff hkind).mpr h⟩

/-- An action asks for one thing only. -/
theorem unique (h : action.Asks kind message) (hother : action.Asks other more) :
    other = kind ∧ more = message := by
  obtain ⟨config, rfl, hkind, hmessage⟩ := h.exists_config
  obtain ⟨_, ⟨⟩, hname, hmore⟩ := hother.exists_config
  exact ⟨ActionKind.name_injective (Json.str.inj (hname.symm.trans hkind)),
    Option.some.inj (hmore.symm.trans hmessage)⟩

end Json.Asks

/-- What the host has brought along: its way to show messages, if any, and one handler a kind. -/
structure Wiring where
  hook : Option (Custom String)
  handler : ActionKind → Handler

def Wiring.handle (w : Wiring) (kind : ActionKind) (handler : Handler) : Wiring :=
  { w with handler := fun other => if other = kind then handler else w.handler other }

/-- How the handler in force for a kind ends: with what it has shown, or in a fault. -/
def Wiring.answer (w : Wiring) (kind : ActionKind) (message : Option String) :
    Except Fault Shown :=
  match w.handler kind, w.hook with
  | .snackbar, some hook => hook (ActionKind.saying message)
  | .custom run, _ => run (kind.action message)
  | _, _ => .ok []

/-- What is raised out of a press: the handler fails with a fault that cannot say what it is, or the
type of the action is no text and cannot be told. -/
inductive Wiring.Escapes (w : Wiring) (told : Wording) : Json → Fault → Prop where
  | failed {action : Json} {kind : ActionKind} {message : Option String} {cause fault : Fault}
    (hasks : action.Asks kind message) (hanswer : w.answer kind message = .error cause)
    (h : told.fault? cause = some fault) : Escapes w told action fault
  | unknown {config : Config} {fault : Fault} (htype : ∀ kind, config.get "type" ≠ .str kind)
    (h : told.value? (config.get "type") = some fault) : Escapes w told (.obj config) fault

def Call.isHandler : Call → Bool
  | .handler _ => true
  | .snackbar _ => false

namespace Dispatcher

structure Wired (d : Dispatcher) (w : Wiring) : Prop where
  hook : d.snackbar = w.hook
  known : ∀ kind : ActionKind, d.handlers.lookup kind.name = some (kind.model, w.handler kind)
  unknown : ∀ name : String, (∀ kind : ActionKind, name ≠ kind.name) → d.handlers.lookup name = none

theorem standard_wired (hook : Option (Custom String)) :
    (standard hook).Wired ⟨hook, ActionKind.standardHandler⟩ := by
  refine ⟨rfl, fun kind => by cases kind <;> rfl, fun name hname => ?_⟩
  have hlog : name ≠ "log" := hname .log
  have hsnackbar : name ≠ "snackbar" := hname .snackbar
  simp only [standard, lookup_cons_ite, hlog, hsnackbar, if_false, List.lookup_nil]

theorem lookup_register (d : Dispatcher) (kind : String) (model : ActionModel) (handler : Handler)
    (name : String) :
    (d.register kind model handler).handlers.lookup name =
      if name = kind then some (model, handler) else d.handlers.lookup name := by
  rw [register, lookup_cons_ite, lookup_filter_ne]
  split <;> rfl

/-- Whatever a handler does, it is called first, and the host is asked to show a message only by the
handler for that, once. -/
theorem perform_calls (d : Dispatcher) (kind : String) (handler : Handler) (action : Action) :
    (d.perform kind handler action).calls = .handler kind ::
      match handler, d.snackbar with
      | .snackbar, some _ => [.snackbar (action.messageOr "Button pressed")]
      | _, _ => [] := by
  have hperform : (d.perform kind handler action).calls =
      .handler kind :: (d.handle handler action).2.1 := by
    rw [perform]
    rcases d.handle handler action with ⟨notices, calls, fault | shown⟩ <;> rfl
  rw [hperform]
  cases handler with
  | log => rfl
  | snackbar => cases hhook : d.snackbar <;> simp only [handle, hhook]
  | custom run => rfl

theorem stop?_handle (d : Dispatcher) (told : Wording) (handler : Handler) (action : Action) :
    told.stop? (d.handle handler action).1 = none := by
  cases handler with
  | log => rfl
  | snackbar => cases hhook : d.snackbar <;> simp only [handle, hhook] <;> rfl
  | custom run => rfl

/-- The only record of a handler at work that may not be told is that of a failure. -/
theorem stop?_perform (d : Dispatcher) (told : Wording) (kind : String) (handler : Handler)
    (action : Action) :
    told.stop? (d.perform kind handler action).notices =
      match (d.handle handler action).2.2 with
      | .ok _ => none
      | .error fault => told.fault? fault := by
  have hsilent := d.stop?_handle told handler action
  rw [perform]
  generalize d.handle handler action = handled at hsilent ⊢
  obtain ⟨notices, calls, outcome⟩ := handled
  cases outcome with
  | ok shown => exact hsilent
  | error fault =>
    have hlast : told.stop? [.actionFailed kind fault, .actionTraceback] = told.fault? fault := by
      rw [← List.singleton_append, told.stop?_append, told.stop?_singleton, told.stop?_singleton]
      exact Option.or_none
    dsimp only
    rw [told.stop?_append, hlast, hsilent]
    rfl

namespace Wired

variable {d : Dispatcher} {w : Wiring} {action : Json}

theorem register (h : d.Wired w) (kind : ActionKind) (handler : Handler) :
    (d.register kind.name kind.model handler).Wired (w.handle kind handler) := by
  refine ⟨h.hook, fun other => ?_, fun name hname => ?_⟩
  · rw [lookup_register, Wiring.handle]
    by_cases hother : other = kind
    · subst hother
      simp only [if_true]
    · have hname : other.name ≠ kind.name := fun hname => hother (ActionKind.name_injective hname)
      simp only [hname, hother, if_false, h.known]
  · rw [lookup_register, if_neg (hname kind), h.unknown name hname]

theorem dispatch_of_asks (h : d.Wired w) {kind : ActionKind} {message : Option String}
    (hasks : action.Asks kind message) :
    d.dispatch action = d.perform kind.name (w.handler kind) (kind.action message) := by
  obtain ⟨config, rfl, hkind, hmessage⟩ := hasks.exists_config
  simp only [dispatch, hkind, h.known, ActionKind.read_of_message? hkind hmessage]

/-- Without a way of the host's to show messages, they are logged. -/
theorem perform_unhooked (h : d.Wired w) (hhook : w.hook = none) (kind : ActionKind)
    (message : Option String) :
    d.perform kind.name .snackbar (kind.action message) =
      ⟨[.snackbar (ActionKind.saying message)], [.handler kind.name], []⟩ := by
  have hnone : d.snackbar = none := h.hook.trans hhook
  simp only [perform, handle, hnone, ActionKind.messageOr_action]

theorem handle_answer (h : d.Wired w) (kind : ActionKind) (message : Option String) :
    (d.handle (w.handler kind) (kind.action message)).2.2 = w.answer kind message := by
  rw [Wiring.answer]
  cases w.handler kind with
  | log => rfl
  | snackbar =>
    rw [handle, h.hook]
    cases w.hook with
    | none => rfl
    | some hook => exact congrArg hook (ActionKind.messageOr_action message kind)
  | custom run => rfl

/-- Nothing is logged in front of a failure. -/
theorem handle_silent (h : d.Wired w) {kind : ActionKind} {message : Option String} {fault : Fault}
    (hanswer : w.answer kind message = .error fault) :
    (d.handle (w.handler kind) (kind.action message)).1 = [] := by
  rw [Wiring.answer] at hanswer
  revert hanswer
  cases w.handler kind with
  | log => exact nofun
  | snackbar =>
    rw [handle, h.hook]
    cases w.hook with
    | none => exact nofun
    | some hook => exact fun _ => rfl
  | custom run => exact fun _ => rfl

/-- What a handler shows is kept unless it fails; that it failed is only logged. -/
theorem perform_answer (h : d.Wired w) (kind : ActionKind) (message : Option String) :
    let press := d.perform kind.name (w.handler kind) (kind.action message)
    press.shown = (w.answer kind message).toOption.getD [] ∧
    ∀ fault, w.answer kind message = .error fault →
      press.notices = [.actionFailed kind.name fault, .actionTraceback] := by
  intro press
  have houtcome := h.handle_answer kind message
  have hsilent (fault : Fault) (hfault : w.answer kind message = .error fault) :=
    h.handle_silent hfault
  simp only [press, perform]
  generalize d.handle (w.handler kind) (kind.action message) = handled at houtcome hsilent ⊢
  obtain ⟨notices, calls, outcome⟩ := handled
  subst houtcome
  cases houtcome : w.answer kind message with
  | ok shown => exact ⟨rfl, nofun⟩
  | error fault =>
    have hnotices : notices = [] := hsilent fault houtcome
    rw [hnotices]
    refine ⟨rfl, ?_⟩
    rintro _ ⟨⟩
    rfl

/-- An action that asks for nothing is only logged, with its type if that is of no use. -/
theorem dispatch_of_not_asks (h : d.Wired w) (hasks : ∀ kind message, ¬ action.Asks kind message) :
    ∃ n : Notice, d.dispatch action = ⟨[n], [], []⟩ ∧
      ∀ told fault, n.untold? told = some fault ↔ w.Escapes told action fault := by
  have hescapes {told : Wording} {fault : Fault} (htold : w.Escapes told action fault) :
      ∃ config, action = .obj config ∧ (∀ kind, Config.get config "type" ≠ .str kind) ∧
        told.value? (Config.get config "type") = some fault := by
    cases htold with
    | failed hother => exact absurd hother (hasks _ _)
    | unknown htype h => exact ⟨_, rfl, htype, h⟩
  cases action with
  | obj config =>
    by_cases htype : ∃ kind : ActionKind, Config.get config "type" = .str kind.name
    · obtain ⟨kind, hkind⟩ := htype
      have hmessage : ActionModel.message? config = none := by
        cases hread : ActionModel.message? config with
        | none => rfl
        | some message =>
          exact absurd ((ActionKind.message?_eq_some_iff hkind).mp hread) (hasks kind message)
      refine ⟨.actionInvalid kind.name 1, ?_, fun told fault => iff_of_false nofun fun htold => ?_⟩
      · simp only [dispatch, hkind, h.known, ActionKind.read_of_message?_none hkind hmessage]
      · obtain ⟨_, ⟨⟩, htext, -⟩ := hescapes htold
        exact htext _ hkind
    · refine ⟨.actionUnknown (Config.get config "type"), ?_, fun told fault => ?_⟩
      · cases hv : Config.get config "type" with
        | str name =>
          have hunknown : d.handlers.lookup name = none :=
            h.unknown name fun kind hname => htype ⟨kind, by rw [hv, hname]⟩
          simp only [dispatch, hv, hunknown]
        | _ => simp only [dispatch, hv]
      · rw [Notice.untold?]
        constructor
        · intro hshown
          cases hv : Config.get config "type" with
          | str name =>
            rw [hv] at hshown
            cases hshown
          | _ =>
            rw [hv] at hshown
            refine .unknown (fun kind hkind => ?_) ?_
            · cases hv.symm.trans hkind
            · rwa [hv]
        · intro htold
          obtain ⟨_, ⟨⟩, htext, hvalue⟩ := hescapes htold
          cases hv : Config.get config "type" with
          | str name => exact absurd hv (htext name)
          | _ =>
            rw [hv] at hvalue
            exact hvalue
  | _ =>
    refine ⟨.actionMissing, rfl, fun told fault => iff_of_false nofun fun htold => ?_⟩
    obtain ⟨_, ⟨⟩, -⟩ := hescapes htold

/-- What is raised out of a press is the fault of the first record that is not told. -/
theorem stop?_dispatch_iff (h : d.Wired w) (told : Wording) (action : Json) (fault : Fault) :
    told.stop? (d.dispatch action).notices = some fault ↔ w.Escapes told action fault := by
  by_cases hasks : ∃ kind message, action.Asks kind message
  · obtain ⟨kind, message, hasks⟩ := hasks
    rw [h.dispatch_of_asks hasks, stop?_perform, h.handle_answer]
    constructor
    · intro hstop
      cases hanswer : w.answer kind message with
      | ok shown =>
        rw [hanswer] at hstop
        cases hstop
      | error cause =>
        rw [hanswer] at hstop
        exact .failed hasks hanswer hstop
    · intro hescapes
      cases hescapes with
      | failed hother hanswer htold =>
        obtain ⟨rfl, rfl⟩ := hasks.unique hother
        rw [hanswer]
        exact htold
      | unknown htype htold =>
        obtain ⟨_, ⟨⟩, hkind, -⟩ := hasks.exists_config
        exact absurd hkind (htype _)
  · obtain ⟨n, hdispatch, hn⟩ := h.dispatch_of_not_asks fun kind message hother =>
      hasks ⟨kind, message, hother⟩
    rw [hdispatch, told.stop?_singleton]
    exact hn told fault

end Wired

end Dispatcher

end ServerUi
