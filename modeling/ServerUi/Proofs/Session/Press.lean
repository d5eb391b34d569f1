import ServerUi.Proofs.Action.Dispatch
import ServerUi.Proofs.Except
import ServerUi.Proofs.Render.Document
import ServerUi.Proofs.Session.History

/-! Buttons that are pressed again and again, while the host puts other handlers in force and its
own code returns or fails as it likes. Nothing of a press is left for the next one but the messages
that were shown, and what is raised out of one is only what its log cannot tell. -/

namespace ServerUi

namespace Session

/-- What is done with a session between two presses of a button, or a press itself. -/
inductive Use where
  | call (c : Call)
  | press (name : String) (place : Nat)
  | handle (kind : ActionKind) (handler : Handler)
  /-- From now on the host's code for messages does this. -/
  | hook (hook : Custom String)

def Use.isPress : Use → Bool
  | press .. => true
  | _ => false

/-- The session behind a use; a press that is refused changes nothing. -/
def use (x : Session) : Use → Session
  | .call c => x.call c
  | .press name place =>
    match x.press name place with
    | .ok (_, y) => y
    | .error _ => x
  | .handle kind handler => x.registerAction kind.name kind.model handler
  | .hook hook => { x with dispatcher := { x.dispatcher with snackbar := some hook } }

def uses (x : Session) (us : List Use) : Session := us.foldl use x

def withShown (x : Session) (shown : Shown) : Session := { x with shown }

theorem press_button {x : Session} {name label : String} {place : Nat} {action : Json}
    (hbutton : x.widget name place = .ok (.leaf (.button label (some action)))) :
    x.press name place = .ok (x.dispatch action) := by
  rw [press, hbutton]
  rfl

section Written

variable {told : Wording} {logged : Logged α}

theorem written_eq_error_iff {fault : Fault} :
    (logged.written told).result = .error fault ↔ told.stop? logged.notices = some fault := by
  rw [Logged.written]
  cases told.stop? logged.notices with
  | none => exact iff_of_false nofun nofun
  | some other => exact ⟨fun h => congrArg some (Except.error.inj h), by rintro ⟨⟩; rfl⟩

theorem eq_of_written_eq_ok {a : α} (h : (logged.written told).result = .ok a) :
    a = logged.result := by
  rw [Logged.written] at h
  cases hstop : told.stop? logged.notices with
  | none =>
    rw [hstop] at h
    exact (Except.ok.inj h).symm
  | some fault =>
    rw [hstop] at h
    cases h

end Written

/-- All that a press does to a session is to have messages shown. -/
theorem exists_shown_press (x : Session) (name : String) (place : Nat) :
    ∃ shown, x.use (.press name place) = x.withShown shown := by
  rw [use]
  cases hpress : x.press name place with
  | error refusal => exact ⟨x.shown, rfl⟩
  | ok pressed =>
    obtain ⟨w, -, hw⟩ := bind_eq_ok_iff.mp hpress
    split at hw
    · cases hw
      exact ⟨_, rfl⟩
    · cases hw
      exact ⟨x.shown, rfl⟩
    · cases hw

section Withheld

variable (x : Session) (shown : Shown)

theorem change_withShown (name : String) (place : Nat) (v : Json) :
    (x.withShown shown).change name place v =
      (x.change name place v).map fun (logged, y) => (logged, y.withShown shown) := by
  have hwidget : (x.withShown shown).widget name place = x.widget name place := rfl
  rw [change, change, hwidget]
  rcases x.widget name place with refusal | l | ⟨w, child⟩ | ⟨g, children⟩
  · rfl
  · by_cases hl : (Widget.leaf l).isChangeable = true
    · simp only [hl, if_true]
      rfl
    · simp only [hl]
      rfl
  · rfl
  · rfl

theorem call_withShown (c : Call) : (x.withShown shown).call c = (x.call c).withShown shown := by
  cases c with
  | render name node => rfl
  | change name place v =>
    rw [call, call, change_withShown]
    cases x.change name place v <;> rfl
  | clear =>
    obtain ⟨host, path, store⟩ := x
    cases store <;> rfl
  | subscribe =>
    obtain ⟨host, path, store⟩ := x
    cases store <;> rfl

theorem use_withShown {u : Use} (hu : u.isPress = false) :
    (x.withShown shown).use u = (x.use u).withShown shown := by
  cases u with
  | call c => exact x.call_withShown shown c
  | press name place => cases hu
  | handle kind handler => rfl
  | hook hook => rfl

/-- Without its presses, a session comes out the same but for what was shown. -/
theorem exists_shown_uses (us : List Use) :
    ∃ shown', (x.withShown shown).uses us =
      (x.uses (us.filter fun u => !u.isPress)).withShown shown' := by
  induction us generalizing x shown with
  | nil => exact ⟨shown, rfl⟩
  | cons u rest ih =>
    by_cases hu : u.isPress = true
    · obtain ⟨name, place, rfl⟩ : ∃ name place, u = .press name place := by
        cases u with
        | press name place => exact ⟨name, place, rfl⟩
        | _ => cases hu
      obtain ⟨later, hpress⟩ := (x.withShown shown).exists_shown_press name place
      obtain ⟨last, hlast⟩ := ih x later
      refine ⟨last, ?_⟩
      change ((x.withShown shown).use (.press name place)).uses rest = _
      rw [hpress]
      exact hlast
    · have hkept : u.isPress = false := Bool.eq_false_iff.mpr hu
      obtain ⟨last, hlast⟩ := ih (x.use u) shown
      refine ⟨last, ?_⟩
      change ((x.withShown shown).use u).uses rest = _
      rw [x.use_withShown shown hkept, hlast, List.filter_cons_of_pos (by rw [hkept]; rfl)]
      rfl

end Withheld

theorem call_dispatcher (x : Session) (c : Call) : (x.call c).dispatcher = x.dispatcher := by
  cases c with
  | render name node => rfl
  | change name place v =>
    rcases change_cases x name place v with ⟨refusal, h, _⟩ | ⟨l, _, _, h⟩ <;> simp only [call, h]
    rfl
  | clear =>
    simp only [call, clear]
    split <;> rfl
  | subscribe =>
    simp only [call, subscribe]
    split <;> rfl

theorem use_host (x : Session) (u : Use) : (x.use u).host = x.host := by
  cases u with
  | call c => exact x.call_host c
  | press name place =>
    obtain ⟨shown, hpress⟩ := x.exists_shown_press name place
    rw [hpress]
    rfl
  | handle kind handler => rfl
  | hook hook => rfl

theorem uses_host (x : Session) (us : List Use) : (x.uses us).host = x.host := by
  induction us generalizing x with
  | nil => rfl
  | cons u rest ih => exact (ih (x.use u)).trans (x.use_host u)

end Session

namespace Wiring

/-- The wiring behind a use. A press leaves it as it is. -/
def after (w : Wiring) : Session.Use → Wiring
  | .handle kind handler => w.handle kind handler
  | .hook hook => { w with hook := some hook }
  | _ => w

def afterAll (w : Wiring) (us : List Session.Use) : Wiring := us.foldl after w

end Wiring

namespace Dispatcher.Wired

variable {x : Session} {w : Wiring}

theorem use (h : x.dispatcher.Wired w) (u : Session.Use) :
    (x.use u).dispatcher.Wired (w.after u) := by
  cases u with
  | call c =>
    rw [Session.use, x.call_dispatcher c]
    exact h
  | press name place =>
    obtain ⟨shown, hpress⟩ := x.exists_shown_press name place
    rw [hpress]
    exact h
  | handle kind handler => exact h.register kind handler
  | hook hook => exact ⟨rfl, h.known, h.unknown⟩

theorem uses (h : x.dispatcher.Wired w) (us : List Session.Use) :
    (x.uses us).dispatcher.Wired (w.afterAll us) := by
  induction us generalizing x w with
  | nil => exact h
  | cons u rest ih => exact ih (h.use u)

end Dispatcher.Wired

/-- A button holds whatever stands under `action` in its node. -/
theorem render_button (images : Option (ImageSource → Report Bool)) {config : Config}
    {label : String} (htype : config.get "type" = .str "button")
    (htext : config.get "text" = .str label) (path : Path) (s : Store) :
    ((Host.standard images).render (.obj config) path s).value =
      some (.leaf (.button label (some (config.get "action")))) := by
  have htag : config.name? "type" = some "button" := by
    rw [Config.name?, htype]
    simp
  have hb : (Host.standard images).registry.lookup "button" = some Builder.button := rfl
  have hreads : config.text "text" = .ok (some label) := by rw [Config.text, htext]
  rw [Host.render_node htag hb, contained_run, Builder.button, hreads]
  rfl

/-- A button of a session that has been used in any way. Pressing it leaves the session as it is but
for the messages that are shown. If the action asks for a kind, the handler in force for the kind is
called, once, and no other; if that is the handler that shows messages, the host's own code gets the
message, or the stand-in for one that is missing or empty. What fails is logged, and raised out of
the press exactly if the log cannot tell it. Any other action has nothing called. All of this is as
if no button had been pressed before. -/
theorem Session.press_performs (images : Option (ImageSource → Report Bool)) (store : Store)
    (hook : Option (Custom String)) (us : List Session.Use) :
    let start := Session.start (Host.standard images) store hook
    let x := start.uses us
    let unpressed := start.uses (us.filter fun u => !u.isPress)
    let w := (Wiring.mk hook ActionKind.standardHandler).afterAll us
    (∀ (config : Config) (label : String), config.get "type" = .str "button" →
      config.get "text" = .str label → ∀ name, (x.render name (.obj config)).2.widget name 0 =
        .ok (.leaf (.button label (some (config.get "action"))))) ∧
    ∀ name place label action,
      x.widget name place = .ok (.leaf (.button label (some action))) →
      ∃ press : Press,
        x.press name place =
          .ok (⟨x.shown ++ press.shown, press.notices⟩, x.withShown (x.shown ++ press.shown)) ∧
        unpressed.press name place = .ok (⟨unpressed.shown ++ press.shown, press.notices⟩,
          unpressed.withShown (unpressed.shown ++ press.shown)) ∧
        (∀ kind message, action.Asks kind message →
          press.calls.filter Call.isHandler = [.handler kind.name] ∧
          (w.handler kind = .snackbar →
            (∀ show?, w.hook = some show? →
              press.calls = [.handler kind.name, .snackbar (ActionKind.saying message)]) ∧
            (w.hook = none → press.notices = [.snackbar (ActionKind.saying message)])) ∧
          press.shown = (w.answer kind message).toOption.getD [] ∧
          ∀ fault, w.answer kind message = .error fault →
            press.notices = [.actionFailed kind.name fault, .actionTraceback]) ∧
        ((∀ kind message, ¬ action.Asks kind message) →
          ∃ n : Notice, press = ⟨[n], [], []⟩) ∧
        ∀ told : Wording, ∃ result, x.pressTold told name place =
            .ok (⟨result, told.written press.notices⟩, x.withShown (x.shown ++ press.shown)) ∧
          (∀ fault, result = .error fault ↔ w.Escapes told action fault) ∧
          ∀ shown, result = .ok shown → shown = x.shown ++ press.shown := by
  intro start x unpressed w
  have hwired : x.dispatcher.Wired w := (Dispatcher.standard_wired hook).uses (x := start) us
  obtain ⟨shown, hsame⟩ : ∃ shown, x = unpressed.withShown shown :=
    start.exists_shown_uses start.shown us
  refine ⟨fun config label htype htext name => ?_, fun name place label action hbutton => ?_⟩
  · have hhost : x.host = Host.standard images := start.uses_host us
    have hvalue := render_button images htype htext x.path x.store
    rw [← hhost] at hvalue
    simp only [Session.render, Session.perform, Session.widget, Session.widgets, Session.keep,
      List.lookup_cons_self, hvalue]
    rfl
  · have hunpressed : unpressed.widget name place = .ok (.leaf (.button label (some action))) := by
      rw [hsame] at hbutton
      exact hbutton
    have hdispatcher : unpressed.dispatcher = x.dispatcher := by rw [hsame]; rfl
    refine ⟨x.dispatcher.dispatch action, Session.press_button hbutton, ?_, ?_, ?_, fun told => ?_⟩
    · rw [Session.press_button hunpressed, ← hdispatcher]
      rfl
    · intro kind message hasks
      have hcalls := x.dispatcher.perform_calls kind.name (w.handler kind) (kind.action message)
      have hanswer := hwired.perform_answer kind message
      have hperform := hwired.dispatch_of_asks hasks
      rw [← hperform] at hcalls hanswer
      refine ⟨?_, fun hsnackbar => ⟨fun show? hhook => ?_, fun hhook => ?_⟩, hanswer⟩
      · rw [hcalls]
        split <;> rfl
      · rw [hcalls, hsnackbar, hwired.hook, hhook]
        simp only [ActionKind.messageOr_action]
      · rw [hperform, hsnackbar, hwired.perform_unhooked hhook]
    · intro hasks
      obtain ⟨n, hdispatch, -⟩ := hwired.dispatch_of_not_asks hasks
      exact ⟨n, hdispatch⟩
    · refine ⟨((x.dispatch action).1.written told).result, ?_, fun fault => ?_, fun shown => ?_⟩
      · rw [Session.pressTold, Session.press_button hbutton]
        rfl
      · exact Session.written_eq_error_iff.trans (hwired.stop?_dispatch_iff told action fault)
      · exact Session.eq_of_written_eq_ok

/-- A host whose code fails when a message is to be shown, and a message that is no text. -/
theorem Session.press_performs_failing :
    let asking := Json.obj [("type", .str "button"), ("text", .str "Save"),
      ("action", .obj [("type", .str "snackbar"), ("message", .str "")])]
    let mistaken := Json.obj [("type", .str "button"), ("text", .str "Log"),
      ("action", .obj [("type", .str "log"), ("message", .int 5)])]
    let page := Json.obj [("type", .str "column"), ("children", .arr [asking, mistaken])]
    let hook : Custom String := fun _ => .error (.raised .runtime none)
    let us := [Session.Use.call (.render "page" page), .hook hook, .press "page" 1,
      .handle .log (.custom fun _ => .error (.raised .key none))]
    let x := (Session.start (Host.standard none) .ephemeral none).uses us
    (x.render "alone" asking).2.widget "alone" 0 = .ok (.leaf (.button "Save"
      (some (.obj [("type", .str "snackbar"), ("message", .str "")])))) ∧
    (∃ press : Press, x.press "page" 1 =
        .ok (⟨x.shown ++ press.shown, press.notices⟩, x.withShown (x.shown ++ press.shown)) ∧
      press.calls = [.handler "snackbar", .snackbar "Button pressed"] ∧
      press.notices = [.actionFailed "snackbar" (.raised .runtime none), .actionTraceback]) ∧
    ∃ press : Press, x.press "page" 2 =
        .ok (⟨x.shown ++ press.shown, press.notices⟩, x.withShown (x.shown ++ press.shown)) ∧
      press.calls = [] := by
  intro asking mistaken page hook us x
  obtain ⟨hrender, hpress⟩ := Session.press_performs none .ephemeral none us
  refine ⟨hrender _ "Save" rfl rfl "alone", ?_, ?_⟩
  · obtain ⟨press, hended, -, hasked, -⟩ := hpress "page" 1 "Save"
      (.obj [("type", .str "snackbar"), ("message", .str "")]) rfl
    obtain ⟨-, hcalls, -, hfailed⟩ := hasked .snackbar (some "") (.message rfl rfl)
    exact ⟨press, hended, (hcalls rfl).1 hook rfl, hfailed _ rfl⟩
  · obtain ⟨press, hended, -, -, hrefused⟩ := hpress "page" 2 "Log"
      (.obj [("type", .str "log"), ("message", .int 5)]) rfl
    have hasks : ∀ kind message, ¬ (Json.obj [("type", .str "log"), ("message", .int 5)]).Asks
        kind message := by
      intro kind message hasks
      cases hasks with
      | silent _ hmessage => cases hmessage
      | message _ hmessage => cases hmessage
    obtain ⟨n, rfl⟩ := hrefused.1 hasks
    exact ⟨_, hended, rfl⟩

/-- The host's code fails with a fault that cannot say what it is, and that leaves the press. -/
theorem Session.press_escapes :
    let asking := Json.obj [("type", .str "button"), ("text", .str "Save"),
      ("action", .obj [("type", .str "snackbar"), ("message", .str "Saved")])]
    ¬ ∀ (told : Wording) (hook : Custom String),
      let start := Session.start (Host.standard none) .ephemeral (some hook)
      ∃ shown notices y, (start.render "page" asking).2.pressTold told "page" 0 =
        .ok (⟨.ok shown, notices⟩, y) := by
  intro asking h
  let told : Wording := ⟨fun _ => some .longWhole, fun _ => none⟩
  let hook : Custom String := fun _ => .error (.raised .value none)
  let start := Session.start (Host.standard none) .ephemeral (some hook)
  obtain ⟨shown, notices, y, hpress⟩ := h told hook
  have hescapes : ((start.render "page" asking).2.pressTold told "page" 0).map (·.1.result) =
      .ok (.error .longWhole) := rfl
  rw [hpress] at hescapes
  cases hescapes

end ServerUi
