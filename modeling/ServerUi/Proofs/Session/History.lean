import ServerUi.Proofs.Json.Members
import ServerUi.Proofs.Render.Steady
import ServerUi.Session.Basic

/-! What a host does with a session, call after call. Rendering leaves the session where it was. -/

namespace ServerUi

namespace Session

theorem lookup_keep (entries : List (String × α)) (name : String) (a : α) (other : String) :
    (keep entries name a).lookup other = if other = name then some a else entries.lookup other := by
  rw [keep, lookup_cons_ite, lookup_filter_ne]
  split <;> rfl

/-- What a host asks of a session. A tree that is to be changed later needs a name of its own. -/
inductive Call where
  | render (name : String) (node : Json)
  | change (name : String) (place : Nat) (v : Json)
  | clear
  | subscribe

/-- The session behind a call; one that is refused changes nothing. -/
def call (x : Session) : Call → Session
  | .render name node => (x.render name node).2
  | .change name place v =>
    match x.change name place v with
    | .ok (_, y) => y
    | .error _ => x
  | .clear => x.clear.toOption.getD x
  | .subscribe => x.subscribe.toOption.getD x

def history (x : Session) (calls : List Call) : Session := calls.foldl call x

/-- All that a change does to a session: it writes a leaf of a kept tree, or it is refused. -/
theorem change_cases (x : Session) (name : String) (place : Nat) (v : Json) :
    (∃ refusal, x.change name place v = .error refusal ∧
      ∀ w, x.widget name place = .ok w → w.isChangeable = false) ∨
    ∃ l, x.widget name place = .ok (.leaf l) ∧ (Widget.leaf l).isChangeable = true ∧
      x.change name place v = .ok (x.changeLeaf name place v l) := by
  unfold change
  rcases hw : x.widget name place with refusal | l | ⟨w, child⟩ | ⟨g, children⟩
  · exact .inl ⟨refusal, rfl, fun w h => by cases h⟩
  · by_cases hc : (Widget.leaf l).isChangeable = true
    · exact .inr ⟨l, rfl, hc, by simp [hc]⟩
    · refine .inl ⟨.notChangeable (.leaf l), by simp [hc], ?_⟩
      rintro _ ⟨⟩
      exact Bool.eq_false_iff.mpr hc
  · refine .inl ⟨.notChangeable (.wrapper w child), rfl, ?_⟩
    rintro _ ⟨⟩
    rfl
  · refine .inl ⟨.notChangeable (.group g children), rfl, ?_⟩
    rintro _ ⟨⟩
    rfl

theorem call_host (x : Session) (c : Call) : (x.call c).host = x.host := by
  cases c with
  | render name node => rfl
  | change name place v =>
    rcases change_cases x name place v with ⟨refusal, h, _⟩ | ⟨l, _, _, h⟩ <;> simp only [call, h]
    rfl
  | clear =>
    simp only [call, clear]
    split <;> rfl
  | subscribe =>
    simp only [call, subscribe]
    split <;> rfl

theorem history_host (x : Session) (calls : List Call) : (x.history calls).host = x.host := by
  induction calls generalizing x with
  | nil => rfl
  | cons c rest ih => exact (ih (x.call c)).trans (call_host x c)

theorem call_path (x : Session) (c : Call) : (x.call c).path = x.path := by
  cases c with
  | render name node => exact (x.host.render_steady node).path_eq x.path x.store
  | change name place v =>
    rcases change_cases x name place v with ⟨refusal, h, _⟩ | ⟨l, _, _, h⟩ <;> simp only [call, h]
    rfl
  | clear =>
    simp only [call, clear]
    split <;> rfl
  | subscribe =>
    simp only [call, subscribe]
    split <;> rfl

theorem history_path (x : Session) (calls : List Call) : (x.history calls).path = x.path := by
  induction calls generalizing x with
  | nil => rfl
  | cons c rest ih => exact (ih (x.call c)).trans (call_path x c)

end Session

end ServerUi
