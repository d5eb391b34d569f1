import ServerUi.Proofs.Render.Laws

/-! Laws of builders' programs: how they run one after another, and that a report may be read in
pieces or at once. -/

namespace ServerUi

namespace Report

theorem bind_mk (notices : List Notice) (outcome : Except Fault α) (f : α → Report β) :
    ((⟨notices, outcome⟩ : Report α) >>= f) =
      match outcome with
      | .error fault => ⟨notices, .error fault⟩
      | .ok a => ⟨notices ++ (f a).notices, (f a).outcome⟩ := by
  cases outcome <;> rfl

theorem bind_outcome (r : Report α) (f : α → Report β) :
    (r >>= f).outcome = r.outcome >>= fun a => (f a).outcome := by
  obtain ⟨notices, outcome⟩ := r
  cases outcome <;> rfl

theorem id_map_eq (r : Report α) : id <$> r = r := by
  obtain ⟨notices, outcome⟩ := r
  cases outcome with
  | error fault => rfl
  | ok a => exact congrArg (Report.mk · (.ok a)) (List.append_nil notices)

theorem bind_assoc_eq (r : Report α) (f : α → Report β) (g : β → Report γ) :
    r >>= f >>= g = r >>= fun a => f a >>= g := by
  obtain ⟨notices, outcome⟩ := r
  cases outcome with
  | error fault => rfl
  | ok a =>
    rcases h : f a with ⟨more, outcome⟩
    cases outcome <;> simp [bind_mk, h]

instance : LawfulMonad Report :=
  LawfulMonad.mk' Report id_map_eq (fun _ _ => rfl) bind_assoc_eq

end Report

/-- Goes on with the value, unless there was a fault. -/
def Pass.unlessFault (p : Pass (Except Fault α)) (f : α → Pass (Except Fault β)) :
    Pass (Except Fault β) := do
  match ← p with
  | .ok a => f a
  | .error fault => return .error fault

def Pass.ofReport (r : Report α) : Pass (Except Fault α) := do
  Pass.emit (r.notices.map .note)
  return r.outcome

theorem Pass.ofReport_run (r : Report α) (path : Path) (s : Store) :
    ofReport r path s = ⟨r.outcome, path, s, r.notices.map .note⟩ := by
  exact congrArg (Outcome.mk _ _ _) (List.append_nil (r.notices.map Event.note))

theorem Pass.ofReport_unlessFault_run (r : Report α) (f : α → Pass (Except Fault β)) (path : Path)
    (s : Store) :
    (ofReport r).unlessFault f path s =
      match r.outcome with
      | .error fault => ⟨.error fault, path, s, r.notices.map .note⟩
      | .ok a => { f a path s with events := r.notices.map .note ++ (f a path s).events } := by
  rw [unlessFault, bind_run, ofReport_run]
  cases r.outcome with
  | error fault => exact congrArg (Outcome.mk _ _ _) (List.append_nil (r.notices.map Event.note))
  | ok a => rfl

theorem Pass.ofReport_bind (r : Report α) (f : α → Report β) :
    ofReport (r >>= f) = (ofReport r).unlessFault fun a => ofReport (f a) := by
  obtain ⟨notices, outcome⟩ := r
  funext path s
  rw [ofReport_unlessFault_run, ofReport_run, Report.bind_mk]
  cases outcome with
  | error fault => rfl
  | ok a => simp only [ofReport_run, List.map_append]

namespace Build

theorem id_map_eq (b : Build α) : id <$> b = b := by
  change b.andThen done = b
  induction b with
  | done a => rfl
  | fail fault => rfl
  | note n next ih => exact congrArg (note n) ih
  | key place next ih => exact congrArg (key place) (funext ih)
  | node place next ih => exact congrArg (node place) (funext ih)
  | children place next ih => exact congrArg (children place) (funext ih)
  | child place field next ih => exact congrArg (child place field) (funext ih)
  | bind k v next ih => exact congrArg (Build.bind k v) (funext ih)
  | write cell v next ih => exact congrArg (write cell v) (funext ih)
  | loads source next ih => exact congrArg (loads source) (funext ih)

theorem bind_assoc_eq (b : Build α) (f : α → Build β) (g : β → Build γ) :
    b >>= f >>= g = b >>= fun a => f a >>= g := by
  change (b.andThen f).andThen g = b.andThen fun a => (f a).andThen g
  induction b with
  | done a => rfl
  | fail fault => rfl
  | note n next ih => exact congrArg (note n) ih
  | key place next ih => exact congrArg (key place) (funext ih)
  | node place next ih => exact congrArg (node place) (funext ih)
  | children place next ih => exact congrArg (children place) (funext ih)
  | child place field next ih => exact congrArg (child place field) (funext ih)
  | bind k v next ih => exact congrArg (Build.bind k v) (funext ih)
  | write cell v next ih => exact congrArg (write cell v) (funext ih)
  | loads source next ih => exact congrArg (loads source) (funext ih)

instance : LawfulMonad Build :=
  LawfulMonad.mk' Build id_map_eq (fun _ _ => rfl) bind_assoc_eq

theorem lift_report (r : Report α) : (liftM r : Build α) = ofReport r := rfl

theorem lift_outcome (outcome : Except Fault α) :
    (liftM outcome : Build α) = ofReport (Report.ofExcept outcome) := rfl

theorem ofReport_pure (a : α) : ofReport (pure a) = pure a := rfl

theorem ofReport_bind (r : Report α) (f : α → Report β) :
    ofReport (r >>= f) = ofReport r >>= fun a => ofReport (f a) := by
  obtain ⟨notices, outcome⟩ := r
  induction notices with
  | nil => cases outcome <;> rfl
  | cons n rest ih =>
    cases outcome <;> exact congrArg (note n) ih

section Run

variable (images : Option (ImageSource → Report Bool)) (p : Part)

theorem run_bind (b : Build α) (f : α → Build β) :
    (b >>= f).run images p = (b.run images p).unlessFault fun a => (f a).run images p := by
  change (b.andThen f).run images p = _
  induction b with
  | done a => rfl
  | fail fault => rfl
  | loads source next ih =>
    simp only [andThen, run, Pass.unlessFault, bind_assoc]
    congr 1
    funext answer
    cases answer with
    | ok b => exact ih b
    | error fault => rfl
  | _ => simp_all [andThen, run, Pass.unlessFault]

theorem run_ofReport (r : Report α) : (ofReport r).run images p = Pass.ofReport r := by
  obtain ⟨notices, outcome⟩ := r
  induction notices with
  | nil => cases outcome <;> rfl
  | cons n rest ih =>
    change (do Pass.emit [.note n]; (ofReport ⟨rest, outcome⟩).run images p) = _
    rw [ih]
    rfl

theorem run_ownKey_bind (f : String → Build α) :
    (ownKey >>= f).run images p =
      Pass.here >>= fun path => (f (identity p.value.config path)).run images p := rfl

theorem run_childAt_bind (field : String) (f : Option Widget → Build α) :
    (childAt field >>= f).run images p =
      renderMember p field >>= fun w => (f w).run images p := rfl

theorem run_childrenAt_bind (field : String) (f : List Widget → Build α) :
    (childrenAt field >>= f).run images p =
      renderItems 0 ((p.at? [.member field]).elim [] Part.items) >>= fun ws =>
        (f ws).run images p := rfl

theorem run_bindCell_bind (key : String) (v : Json) (f : Cell → Build α) :
    (bindCell key v >>= f).run images p =
      Pass.bindCell key v >>= fun cell => (f cell).run images p := rfl

theorem run_writeCell_bind (cell : Cell) (v : Json) (f : Cell → Build α) :
    (writeCell cell v >>= f).run images p =
      Pass.writeCell cell v >>= fun cell => (f cell).run images p := rfl

theorem run_ofReport_bind (r : Report α) (f : α → Build β) :
    (ofReport r >>= f).run images p =
      (Pass.ofReport r).unlessFault fun a => (f a).run images p := by
  rw [run_bind, run_ofReport]

end Run

/-- A program that asks for no more than whether images load. -/
inductive Quiet : Build α → Prop where
  | done (a : α) : Quiet (done a)
  | fail (fault : Fault) : Quiet (fail fault)
  | note (n : Notice) {next : Build α} (h : Quiet next) : Quiet (note n next)
  | loads (source : ImageSource) {next : Bool → Build α} (h : ∀ b, Quiet (next b)) :
      Quiet (loads source next)

/-- What a loader answers; without one every image loads. -/
def loading (images : Option (ImageSource → Report Bool)) (source : ImageSource) : Report Bool :=
  (images.map fun loader => loader source).getD (pure true)

/-- What a program comes to with nothing below its node and nothing remembered. -/
def reading (images : Option (ImageSource → Report Bool)) : Build α → Report α
  | done a => pure a
  | fail fault => ⟨[], .error fault⟩
  | note n next => do
    Report.note n
    next.reading images
  | key _ next => (next "").reading images
  | node _ next => (next none).reading images
  | children _ next => (next []).reading images
  | child _ _ next => (next none).reading images
  | bind k v next => (next ⟨k, v⟩).reading images
  | write cell v next => (next { cell with value := v }).reading images
  | loads source next => do
    let b ← loading images source
    (next b).reading images

theorem askLoader_eq (images : Option (ImageSource → Report Bool)) (source : ImageSource) :
    askLoader images source = Pass.ofReport (loading images source) := by
  cases images <;> rfl

namespace Quiet

theorem bind {b : Build α} {f : α → Build β} (hb : b.Quiet) (hf : ∀ a, (f a).Quiet) :
    (b >>= f).Quiet := by
  change (b.andThen f).Quiet
  induction hb with
  | done a => exact hf a
  | fail fault => exact .fail fault
  | note n _ ih => exact .note n ih
  | loads source _ ih => exact .loads source ih

theorem pure (a : α) : (Pure.pure a : Build α).Quiet := .done a

theorem ofReport (r : Report α) : (Build.ofReport r).Quiet := by
  obtain ⟨notices, outcome⟩ := r
  induction notices with
  | nil =>
    cases outcome with
    | ok a => exact .done a
    | error fault => exact .fail fault
  | cons n rest ih => exact .note n ih

theorem lift (outcome : Except Fault α) : (liftM outcome : Build α).Quiet :=
  ofReport (Report.ofExcept outcome)

theorem isLoadable (source : ImageSource) : (Build.isLoadable source).Quiet :=
  .loads source fun b => .done b

/-- A quiet program writes the records of its reading and ends as it does. -/
theorem run_eq {b : Build α} (h : b.Quiet) (images : Option (ImageSource → Report Bool))
    (p : Part) : b.run images p = Pass.ofReport (b.reading images) := by
  induction h with
  | done a => rfl
  | fail fault => rfl
  | note n _ ih =>
    rw [run, reading, ih, Pass.ofReport_bind]
    rfl
  | loads source _ ih =>
    rw [run, reading, askLoader_eq, Pass.ofReport_bind, Pass.unlessFault]
    congr 1
    funext answer
    cases answer with
    | ok b => exact ih b
    | error fault => rfl

end Quiet

end Build

end ServerUi
