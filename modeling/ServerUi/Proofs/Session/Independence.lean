import ServerUi.Proofs.Render.Told
import ServerUi.Proofs.Session.History

/-! Documents that are rendered with an ephemeral store, one after the other, while the log of it is
told. None is rendered differently for what came before, also where that left a call as a fault. -/

namespace ServerUi

namespace Session

/-- The session behind a call whose rendering is told to the log. -/
def callTold (w : Wording) (x : Session) : Call → Session
  | .render name node => (x.renderTold w name node).2
  | c => x.call c

def historyTold (w : Wording) (x : Session) (calls : List Call) : Session :=
  calls.foldl (callTold w) x

/-- Between two calls, with these builders and an ephemeral store. -/
structure AtRest (host : Host) (x : Session) : Prop where
  host_eq : x.host = host
  path_eq : x.path = []
  store_eq : x.store = .ephemeral

theorem change_ephemeral (l : Leaf) (v : Json) : (l.change v .ephemeral).2.1 = .ephemeral := by
  unfold Leaf.change
  split
  · rfl
  · rfl
  · split
    · split <;> rfl
    · rfl
  · rfl

namespace AtRest

variable {host : Host} {x : Session} {told : Wording}

theorem render (h : AtRest host x) (name : String) (node : Json) :
    AtRest host (x.renderTold told name node).2 := by
  have hsteady := x.host.renderTold_steady told node
  have hpath : (x.host.renderTold told node x.path x.store).path = [] :=
    (hsteady.path_eq _ _).trans h.path_eq
  have hstore : (x.host.renderTold told node x.path x.store).store = .ephemeral := by
    rw [h.store_eq]
    exact hsteady.store_eq x.path
  exact ⟨h.host_eq, hpath, hstore⟩

theorem call (h : AtRest host x) (c : Call) : AtRest host (x.callTold told c) := by
  cases c with
  | render name node => exact h.render name node
  | change name place v =>
    refine ⟨(x.call_host _).trans h.host_eq, (x.call_path _).trans h.path_eq, ?_⟩
    rcases change_cases x name place v with ⟨refusal, hchange, _⟩ | ⟨l, _, _, hchange⟩
    · simp only [callTold, Session.call, hchange, h.store_eq]
    · simp only [callTold, Session.call, hchange]
      change (l.change v x.store).2.1 = .ephemeral
      rw [h.store_eq, change_ephemeral]
  | clear =>
    refine ⟨(x.call_host _).trans h.host_eq, (x.call_path _).trans h.path_eq, ?_⟩
    simp [callTold, Session.call, clear, h.store_eq, Except.toOption]
  | subscribe =>
    refine ⟨(x.call_host _).trans h.host_eq, (x.call_path _).trans h.path_eq, ?_⟩
    simp [callTold, Session.call, subscribe, h.store_eq, Except.toOption]

theorem history (h : AtRest host x) (calls : List Call) :
    AtRest host (x.historyTold told calls) := by
  induction calls generalizing x with
  | nil => exact h
  | cons c rest ih => exact ih (h.call c)

end AtRest

theorem start_atRest (host : Host) (snackbar : Option (Custom String)) :
    AtRest host (start host .ephemeral snackbar) :=
  ⟨rfl, rfl, rfl⟩

theorem renderTold_widgets {x : Session} {told : Wording} {name : String} {node : Json}
    {w : Option Widget} (h : (x.renderTold told name node).1.result = .ok w) :
    (x.renderTold told name node).2.widgets name = .ok (w.elim [] Widget.walk) := by
  change (x.perform (x.host.renderTold told node).run).1.result = .ok w at h
  simp only [renderTold, h, widgets, Except.toOption, Option.elim_some, keep, List.lookup_cons_self]

end Session

/-- After any history of a session with an ephemeral store, under any builders, and however the log
is told. The way is back at the root, and stays where it is over each call that renders. What a
builder raises becomes an error in place of its node, as soon as it can say what it is; a call ends in
a fault just if the builder of its own node ends in one that cannot, which is then what leaves it. A
document is rendered as in a new session, event by event, and what it shows is kept. -/
theorem Session.history_independent (told : Wording) (host : Host)
    (snackbar : Option (Custom String)) (calls : List Session.Call) (name : String) (node : Json) :
    let fresh := Session.start host .ephemeral snackbar
    let x := fresh.historyTold told calls
    x.path = [] ∧
    (∀ v path s, (x.host.renderTold told v path s).path = path) ∧
    (∀ config tag b, config.name? "type" = some tag → x.host.registry.lookup tag = some b →
      ∀ path s,
        (∀ w, (host.buildTold told b config (path ++ [tag]) s).value = .ok w →
          (x.host.renderTold told (.obj config) path s).value = .ok w) ∧
        ∀ cause, (host.buildTold told b config (path ++ [tag]) s).value = .error cause →
          (x.host.renderTold told (.obj config) path s).value =
            match told.fault? cause with
            | none => .ok (some (.error (NodeError.failed cause).message))
            | some fault => .error fault) ∧
    (∀ v path s fault, (x.host.renderTold told v path s).value = .error fault →
      ∃ (config : Config) (tag : String) (b : Builder) (cause : Fault), v = .obj config ∧
        config.name? "type" = some tag ∧
        x.host.registry.lookup tag = some b ∧
        (host.buildTold told b config (path ++ [tag]) s).value = .error cause ∧
        told.fault? cause = some fault) ∧
    x.host.renderTold told node x.path x.store = host.renderTold told node [] .ephemeral ∧
    (x.renderTold told name node).1 = (fresh.renderTold told name node).1 ∧
    (∀ w, (x.renderTold told name node).1.result = .ok w →
      (x.renderTold told name node).2.widgets name = .ok (w.elim [] Widget.walk)) ∧
    host.renderTold .full node = liftM (host.render node) := by
  intro fresh x
  have hx : x.AtRest host := (Session.start_atRest host snackbar).history calls
  have hrender : x.host.renderTold told node x.path x.store =
      host.renderTold told node [] .ephemeral := by
    rw [hx.host_eq, hx.path_eq, hx.store_eq]
  refine ⟨hx.path_eq, fun v => (x.host.renderTold_steady told v).path_eq, ?_, ?_, hrender, ?_,
    fun w => Session.renderTold_widgets, host.renderTold_full node⟩
  · rw [hx.host_eq]
    intro config tag b htag hb path s
    rw [Host.renderTold_value htag hb]
    refine ⟨fun w hw => by rw [hw]; rfl, fun cause hcause => ?_⟩
    rw [hcause, inPlaceTold]
    cases told.fault? cause <;> rfl
  · rw [hx.host_eq]
    exact fun v path s fault => (host.renderTold_eq_error_iff v path s fault).mp
  · exact congrArg (fun o => Logged.mk o.value (Session.noticesOf o.events)) hrender

theorem Session.history_independent_raised :
    let node := Json.obj [("type", .str "frail")]
    let host : Host := ⟨⟨[("frail", fun _ => .fail (.raised .division none))]⟩, none⟩
    let calls := [Session.Call.render "a" node, .change "a" 0 (.bool true)]
    let x := (Session.start host .ephemeral none).historyTold .full calls
    x.path = [] ∧ (x.host.renderTold .full node x.path .ephemeral).value =
      .ok (some (.error "parse error: ZeroDivisionError")) := by
  intro node host calls x
  obtain ⟨hpath, -, hbuilt, -⟩ :=
    Session.history_independent .full host none calls "a" node
  refine ⟨hpath, ?_⟩
  exact (hbuilt [("type", .str "frail")] "frail" _ rfl rfl _ _).2 (.raised .division none) rfl

/-- A fault whose text is itself a fault leaves the call that renders the root. -/
theorem Session.render_escapes :
    let node := Json.obj [("type", .str "frail")]
    let host : Host := ⟨⟨[("frail", fun _ => .fail (.raised .value none))]⟩, none⟩
    let told : Wording := ⟨fun _ => some .longWhole, fun _ => none⟩
    let x := Session.start host .ephemeral none
    (x.renderTold told "a" node).1.result = .error .longWhole := by
  rfl

end ServerUi
