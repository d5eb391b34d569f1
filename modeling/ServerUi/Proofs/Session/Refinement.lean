import ServerUi.Proofs.Render.Inputs
import ServerUi.Proofs.Session.History

/-! A session with a memory store, call after call, beside a ledger: rendering enters what the
interactive nodes of the document enter, a change of a widget goes under the widget's identity, and
clearing empties both. -/

namespace ServerUi

namespace Session

/-- What a change of a widget does to the ledger: a checkbox takes the truth of the value, and a
dropdown the value if it is one of its own options. -/
def noted (m : Ledger) (v : Json) : Widget → Ledger
  | .leaf (.checkbox _ (some cell)) => m.set cell.key (.bool v.truth)
  | .leaf (.dropdown options _ (some cell)) =>
    if Builder.isOption options v then m.set cell.key v else m
  | _ => m

def ledgerCall (images : Option (ImageSource → Report Bool)) (x : Session) (m : Ledger) :
    Call → Ledger
  | .render _ node => (m.play (inputs images node [])).1
  | .change name place v =>
    match x.widget name place with
    | .ok w => noted m v w
    | .error _ => m
  | .clear => .empty
  | .subscribe => m

/-- The ledger behind a history of calls; the session tells which widget a name and a place mean. -/
def ledger (images : Option (ImageSource → Report Bool)) (x : Session) (m : Ledger) :
    List Call → Ledger
  | [] => m
  | c :: rest => ledger images (x.call c) (x.ledgerCall images m c) rest

/-- Asked for its values, the session answers with those of the ledger, each identity once. -/
def Remembers (x : Session) (m : Ledger) : Prop :=
  ∃ values, x.remembered = .ok values ∧ (values.map Prod.fst).Nodup ∧
    ∀ key, values.lookup key = m key

theorem remembers_of_holds {x : Session} {m : Ledger} (h : x.store.Holds m) : x.Remembers m := by
  obtain ⟨values, hstore, hvalues⟩ := h
  refine ⟨values, ?_, hvalues⟩
  rw [remembered, hstore]
  rfl

theorem holds_change {s : Store} {m : Ledger} (hs : s.Holds m) (l : Leaf) (v : Json) :
    (l.change v s).2.1.Holds (noted m v (.leaf l)) := by
  obtain ⟨values, rfl, hnodup, hlookup⟩ := hs
  have hs : (Store.memory values).Holds m := ⟨values, rfl, hnodup, hlookup⟩
  cases l with
  | checkbox label cell =>
    cases cell with
    | none => exact hs
    | some cell => exact hs.put cell.key (.bool v.truth)
  | dropdown options label cell =>
    cases cell with
    | none => exact hs
    | some cell =>
      cases v with
      | str choice =>
        by_cases hc : options.contains choice = true
        · have hput := hs.put cell.key (.str choice)
          simp only [Leaf.change, noted, Builder.isOption, hc, if_true]
          exact hput
        · simp only [Leaf.change, noted, Builder.isOption, hc]
          exact hs
      | _ => exact hs
  | _ => exact hs

theorem noted_unchangeable {w : Widget} (h : w.isChangeable = false) (m : Ledger) (v : Json) :
    noted m v w = m := by
  rcases w with l | ⟨w, child⟩ | ⟨g, children⟩
  · cases l with
    | checkbox label cell => cases h
    | dropdown options label cell => cases h
    | _ => rfl
  · rfl
  · rfl

section Memory

variable {images : Option (ImageSource → Report Bool)} {x : Session} {m : Ledger}
  (hhost : x.host = Host.standard images) (hpath : x.path = []) (hs : x.store.Holds m)

include hhost hpath hs

theorem recorded_render (node : Json) :
    let o := x.host.render node x.path x.store
    Recorded m (inputs images node []) o.value.toList o.store o.events := by
  rw [hhost, hpath]
  exact tracked node [] x.store m hs

theorem holds_call (c : Call) : (x.call c).store.Holds (x.ledgerCall images m c) := by
  cases c with
  | render name node => exact (recorded_render hhost hpath hs node).holds
  | change name place v =>
    rcases change_cases x name place v with ⟨refusal, h, hw⟩ | ⟨l, hl, _, h⟩
    · simp only [call, h, ledgerCall]
      split
      · next w hget =>
        rw [noted_unchangeable (hw w hget)]
        exact hs
      · exact hs
    · simp only [call, h, ledgerCall, hl]
      exact holds_change hs l v
  | clear =>
    obtain ⟨values, hmemory, -, -⟩ := hs
    simp only [call, clear, hmemory]
    exact ⟨[], rfl, List.nodup_nil, fun _ => rfl⟩
  | subscribe =>
    obtain ⟨values, hmemory, -, -⟩ := id hs
    simp only [call, subscribe, hmemory]
    exact hmemory ▸ hs

theorem holds_history (calls : List Call) :
    (x.history calls).store.Holds (x.ledger images m calls) := by
  induction calls generalizing x m with
  | nil => exact hs
  | cons c rest ih =>
    exact ih ((call_host x c).trans hhost) ((call_path x c).trans hpath)
      (holds_call hhost hpath hs c)

end Memory

end Session

/-- After any history of a session with a memory store, the store holds the ledger of the history,
and so does what the session answers when it is asked for its values; and when a document is rendered
next, the interactive nodes that are built show, one after another, what the ledger says, and so do
the interactive widgets of the tree, which are among them. -/
theorem Session.memory_refines (images : Option (ImageSource → Report Bool))
    (snackbar : Option (Custom String)) (calls : List Session.Call) (name : String)
    (node : Json) :
    let start := Session.start (Host.standard images) (.memory []) snackbar
    let x := start.history calls
    let m := start.ledger images .empty calls
    let played := m.play (inputs images node [])
    let y := x.call (.render name node)
    x.store.Holds m ∧ x.Remembers m ∧ y.store.Holds played.1 ∧ y.Remembers played.1 ∧
    (x.host.render node x.path x.store).events.filterMap Event.input? = played.2 ∧
    (inputsShown (x.render name node).1.result.toList).Sublist played.2 := by
  intro start x m played y
  have hhost : x.host = Host.standard images := start.history_host calls
  have hpath : x.path = [] := start.history_path calls
  have hs : x.store.Holds m :=
    Session.holds_history rfl rfl ⟨[], rfl, List.nodup_nil, fun _ => rfl⟩ calls
  have hrender := Session.recorded_render hhost hpath hs node
  have hy : y.store.Holds played.1 := hrender.holds
  exact ⟨hs, Session.remembers_of_holds hs, hy, Session.remembers_of_holds hy, hrender.built,
    hrender.shown⟩

end ServerUi
