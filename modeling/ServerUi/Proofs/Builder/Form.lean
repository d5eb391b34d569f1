import ServerUi.Proofs.Builder.Laws
import ServerUi.Proofs.State.Seed
import ServerUi.Proofs.Widget.Walk

/-! The forms of the standard builders. A still one only reads, a field keeps its identity, an input
binds the value that it reads, a wrapper has its child rendered between what it reads before and
behind, and a group likewise its items. What a form reads hangs on the node's own fields alone. -/

namespace ServerUi

/-- Wrappers around one another, the first one outermost. -/
def nested : List Wrapper → Option Widget → Option Widget
  | [], child => child
  | w :: rest, child => some (.wrapper w (nested rest child))

inductive Form where
  | still (reading : Report (Option Widget))
  | field (reading : Report (Option String × Option String))
  | input (seed : Report (Option Seed))
  | wrapper (opening : Report (Report (Wrapper × List Wrapper)))
  | group (opening : Report (Option (Report Group)))

/-- What a builder of the form does, given how the child and the items are rendered. -/
def Form.pass (key : Path → String) (child : Pass (Option Widget)) (items : Pass (List Widget)) :
    Form → Pass (Except Fault (Option Widget))
  | still reading => Pass.ofReport reading
  | field reading => do
    let key := key (← Pass.here)
    (Pass.ofReport reading).unlessFault fun (label, hint) =>
      return .ok (some (.leaf (.textField label hint (some key))))
  | input seed =>
    (Pass.ofReport seed).unlessFault fun
      | none => return .ok none
      | some seed => do
        let w ← seed.sow (key (← Pass.here))
        return .ok (some w)
  | wrapper opening =>
    (Pass.ofReport opening).unlessFault fun closing => do
      let w ← child
      (Pass.ofReport closing).unlessFault fun (outer, inner) =>
        return .ok (some (.wrapper outer (nested inner w)))
  | group opening =>
    (Pass.ofReport opening).unlessFault fun
      | none => return .ok none
      | some closing => do
        let ws ← items
        (Pass.ofReport closing).unlessFault fun g => return .ok (some (.group g ws))

namespace Build

def wrapping (opening : Report (Report (Wrapper × List Wrapper))) : Build (Option Widget) := do
  let closing ← ofReport opening
  let child ← childAt "child"
  let (outer, inner) ← ofReport closing
  return some (.wrapper outer (nested inner child))

def grouping (opening : Report (Option (Report Group))) : Build (Option Widget) := do
  match ← ofReport opening with
  | none => return none
  | some closing => do
    let children ← childrenAt "children"
    let g ← ofReport closing
    return some (.group g children)

def naming (reading : Report (Option String × Option String)) : Build (Option Widget) := do
  let key ← ownKey
  let (label, hint) ← ofReport reading
  return some (.leaf (.textField label hint (some key)))

def binding (seed : Report (Option Seed)) : Build (Option Widget) := do
  match ← ofReport seed with
  | none => return none
  | some seed => do
    let key ← ownKey
    let cell ← bindCell key seed.initial
    let cell ← if seed.admits cell.value then pure cell else writeCell cell seed.initial
    return some (.leaf (seed.leaf cell))

end Build

def childParts (p : Part) : List Part := (p.at? [.member "children"]).elim [] Part.items

def Form.Runs (form : Form) (images : Option (ImageSource → Report Bool))
    (b : Build (Option Widget)) (config : Config) : Prop :=
  ∀ p : Part, p.value = .obj config → b.run images p =
    form.pass (identity config) (renderMember p "child") (renderItems 0 (childParts p))

variable (images : Option (ImageSource → Report Bool)) (config : Config)

theorem runs_wrapping (opening : Report (Report (Wrapper × List Wrapper))) :
    (Form.wrapper opening).Runs images (Build.wrapping opening) config := by
  intro p _
  simp only [Build.wrapping, Build.run_ofReport_bind, Build.run_childAt_bind, Form.pass]
  rfl

theorem runs_grouping (opening : Report (Option (Report Group))) :
    (Form.group opening).Runs images (Build.grouping opening) config := by
  intro p _
  simp only [Build.grouping, Build.run_ofReport_bind, Form.pass]
  congr 1
  funext closing
  cases closing with
  | none => rfl
  | some closing =>
    simp only [Build.run_childrenAt_bind, Build.run_ofReport_bind]
    rfl

theorem runs_naming (reading : Report (Option String × Option String)) :
    (Form.field reading).Runs images (Build.naming reading) config := by
  intro p hp
  simp only [Build.naming, Build.run_ownKey_bind, Build.run_ofReport_bind, Form.pass, hp]
  rfl

theorem runs_binding (seed : Report (Option Seed)) :
    (Form.input seed).Runs images (Build.binding seed) config := by
  intro p hp
  simp only [Build.binding, Build.run_ofReport_bind, Form.pass]
  congr 1
  funext seed
  cases seed with
  | none => rfl
  | some seed =>
    simp only [Build.run_ownKey_bind, Build.run_bindCell_bind, Seed.sow, hp, Json.config,
      bind_assoc, pure_bind]
    congr 1
    funext path
    congr 1
    funext cell
    split
    · rfl
    · simp only [Build.run_writeCell_bind, bind_assoc, pure_bind]
      rfl

theorem runs_quiet {b : Build (Option Widget)} (h : b.Quiet) :
    (Form.still (b.reading images)).Runs images b config :=
  fun p _ => h.run_eq images p

/-- What a form builds, but for the value of an input, the child and the items. -/
inductive Content where
  | still (w : Widget)
  | field (label hint : Option String)
  | input (seed : Seed)
  | wrapper (outer : Wrapper) (inner : List Wrapper)
  | group (g : Group)

/-- The widget, given the identity of its node and what the content leaves open. -/
def Content.widget (key : String) (value : Seed → Json) (child : Option Widget)
    (items : List Widget) : Content → Widget
  | still w => w
  | field label hint => .leaf (.textField label hint (some key))
  | input seed => .leaf (seed.leaf ⟨key, value seed⟩)
  | wrapper outer inner => .wrapper outer (nested inner child)
  | group g => .group g items

section MapLeaves

variable {f : Leaf → Leaf} {child other : Option Widget}
  (hchild : child.map (Widget.mapLeaves f) = other.map (Widget.mapLeaves f))

include hchild

theorem mapLeaves_nested (inner : List Wrapper) :
    (nested inner child).map (Widget.mapLeaves f) =
      (nested inner other).map (Widget.mapLeaves f) := by
  induction inner with
  | nil => exact hchild
  | cons w rest ih => simp only [nested, Option.map_some, Widget.mapLeaves_wrapper, ih]

/-- A change of leaves that forgets what two widgets of a content differ in makes them the same. -/
theorem mapLeaves_content (c : Content) {key key' : String} {value value' : Seed → Json}
    {items others : List Widget}
    (hfield : ∀ label hint, f (.textField label hint (some key)) =
      f (.textField label hint (some key')))
    (hinput : ∀ seed : Seed, f (seed.leaf ⟨key, value seed⟩) = f (seed.leaf ⟨key', value' seed⟩))
    (hitems : items.map (Widget.mapLeaves f) = others.map (Widget.mapLeaves f)) :
    (c.widget key value child items).mapLeaves f =
      (c.widget key' value' other others).mapLeaves f := by
  cases c with
  | still w => rfl
  | field label hint => exact congrArg Widget.leaf (hfield label hint)
  | input seed => exact congrArg Widget.leaf (hinput seed)
  | wrapper outer inner =>
    simp only [Content.widget, Widget.mapLeaves_wrapper, mapLeaves_nested hchild]
  | group g => simp only [Content.widget, Widget.mapLeaves_group, hitems]

end MapLeaves

namespace Form

/-- What a node of the form comes to: a fault, nothing to show, or a content. -/
def content : Form → Except Fault (Option Content)
  | still reading => (Option.map .still) <$> reading.outcome
  | field reading => (fun (label, hint) => some (.field label hint)) <$> reading.outcome
  | input seed => (Option.map .input) <$> seed.outcome
  | wrapper opening => do
    let closing ← opening.outcome
    let (outer, inner) ← closing.outcome
    return some (.wrapper outer inner)
  | group opening => do
    match ← opening.outcome with
    | none => return none
    | some closing => return some (.group (← closing.outcome))

/-- How far a node of the form gets, which may be further than it can be shown. -/
inductive Reach where
  | nothing
  | seed (seed : Seed)
  | child
  | items

def reach : Form → Reach
  | still _ => .nothing
  | field _ => .nothing
  | input reading =>
    match reading.outcome with
    | .ok (some seed) => .seed seed
    | _ => .nothing
  | wrapper opening =>
    match opening.outcome with
    | .ok _ => .child
    | .error _ => .nothing
  | group opening =>
    match opening.outcome with
    | .ok (some _) => .items
    | _ => .nothing

end Form

/-- How far a node gets that comes to a content. -/
def Content.reach : Content → Form.Reach
  | still _ | field .. => .nothing
  | input seed => .seed seed
  | wrapper .. => .child
  | group _ => .items

theorem Form.reach_of_content {form : Form} {c : Content} (h : form.content = .ok (some c)) :
    form.reach = c.reach := by
  cases form with
  | still reading =>
    rcases hr : reading.outcome with _ | _ | w <;> rw [content, hr] at h <;> cases h
    rfl
  | field reading =>
    cases hr : reading.outcome <;> rw [content, hr] at h <;> cases h
    rfl
  | input reading =>
    rcases hr : reading.outcome with _ | _ | seed <;> rw [content, hr] at h <;> cases h
    rw [reach, hr]
    rfl
  | wrapper opening =>
    rcases hr : opening.outcome with _ | ⟨notices, _ | w⟩ <;> rw [content, hr] at h <;> cases h
    rw [reach, hr]
    rfl
  | group opening =>
    rcases hr : opening.outcome with _ | _ | ⟨notices, _ | g⟩ <;> rw [content, hr] at h <;> cases h
    rw [reach, hr]
    rfl

/-- A node that has nothing to show has nothing rendered below it. -/
theorem Form.reach_of_absent {form : Form} (h : form.content = .ok none) :
    form.reach = .nothing := by
  cases form with
  | still reading => rfl
  | field reading => rfl
  | input reading =>
    rcases hr : reading.outcome with _ | _ | seed <;> rw [content, hr] at h <;> cases h
    rw [reach, hr]
  | wrapper opening =>
    rcases hr : opening.outcome with _ | ⟨notices, _ | w⟩ <;> rw [content, hr] at h <;> cases h
  | group opening =>
    rcases hr : opening.outcome with _ | _ | ⟨notices, _ | g⟩ <;> rw [content, hr] at h <;> cases h
    rw [reach, hr]

namespace Form

/-- The records of a form in front of what is rendered below its node. -/
def opened : Form → List Notice
  | still reading => reading.notices
  | field reading => reading.notices
  | input seed => seed.notices
  | wrapper opening => opening.notices
  | group opening => opening.notices

/-- The records of a form behind that. -/
def closed : Form → List Notice
  | wrapper opening =>
    match opening.outcome with
    | .ok closing => closing.notices
    | .error _ => []
  | group opening =>
    match opening.outcome with
    | .ok (some closing) => closing.notices
    | _ => []
  | _ => []

end Form

/-- What happens in a form besides its own records, which stand around it. -/
theorem Form.pass_frame (form : Form) (key : Path → String) (child : Pass (Option Widget))
    (items : Pass (List Widget)) (path : Path) (s : Store) :
    (form.pass key child items path s).events =
      form.opened.map Event.note ++
        (match form.reach with
        | .nothing => []
        | .seed seed => written (s.replaced (key path) seed)
        | .child => (child path s).events
        | .items => (items path s).events) ++
      form.closed.map Event.note := by
  cases form with
  | still reading =>
    simp only [pass, reach, opened, closed, Pass.ofReport_run, List.map_nil, List.append_nil]
  | field reading =>
    simp only [pass, reach, opened, closed, Pass.bind_run, Pass.here_run,
      Pass.ofReport_unlessFault_run]
    cases reading.outcome <;>
      simp only [Pass.pure_run, List.nil_append, List.append_nil, List.map_nil]
  | input seed =>
    simp only [pass, reach, opened, closed, Pass.ofReport_unlessFault_run]
    rcases seed.outcome with _ | _ | seed
    · simp only [List.map_nil, List.append_nil]
    · simp only [Pass.pure_run, List.map_nil, List.append_nil]
    · simp only [Pass.bind_run, Pass.here_run, Pass.pure_run, seed.sow_run, List.map_nil,
        List.append_nil, List.nil_append]
  | wrapper opening =>
    simp only [pass, reach, opened, closed, Pass.ofReport_unlessFault_run]
    cases opening.outcome with
    | error fault => simp only [List.map_nil, List.append_nil]
    | ok closing =>
      simp only [Pass.bind_run, Pass.ofReport_unlessFault_run]
      cases closing.outcome <;> simp only [Pass.pure_run, List.append_nil, List.append_assoc]
  | group opening =>
    simp only [pass, reach, opened, closed, Pass.ofReport_unlessFault_run]
    rcases opening.outcome with _ | _ | closing
    · simp only [List.map_nil, List.append_nil]
    · simp only [Pass.pure_run, List.map_nil, List.append_nil]
    · simp only [Pass.bind_run, Pass.ofReport_unlessFault_run]
      cases closing.outcome <;> simp only [Pass.pure_run, List.append_nil, List.append_assoc]

section Pass

variable (form : Form) (key : Path → String) (child : Pass (Option Widget))
  (items : Pass (List Widget)) (path : Path) (s : Store)

/-- What a view of events shows of a form comes from the child or the items, whether or not the node
can be shown, unless it shows the form's own records or what is written to a store. -/
theorem Form.pass_seen {f : Event → Option β}
    (hown : ∀ n ∈ form.opened ++ form.closed, f (.note n) = none)
    (hwritten : ∀ changes, (written changes).filterMap f = []) :
    (form.pass key child items path s).events.filterMap f =
      match form.reach with
      | .child => (child path s).events.filterMap f
      | .items => (items path s).events.filterMap f
      | _ => [] := by
  have hopened := notes_unseen fun n hn => hown n (List.mem_append_left form.closed hn)
  have hclosed := notes_unseen fun n hn => hown n (List.mem_append_right form.opened hn)
  rw [form.pass_frame, List.filterMap_append, List.filterMap_append, hopened, hclosed,
    List.nil_append, List.append_nil]
  cases form.reach with
  | seed seed => exact hwritten _
  | _ => rfl

theorem Form.pass_events {f : Event → Option β} (hf : Event.Blind f) :
    (form.pass key child items path s).events.filterMap f =
      match form.reach with
      | .child => (child path s).events.filterMap f
      | .items => (items path s).events.filterMap f
      | _ => [] :=
  form.pass_seen key child items path s (fun n _ => hf.note n)
    (written_unseen (fun _ _ => hf.note _) hf.changed)

/-- What a form yields, leaves in the store and builds as inputs on the way, the node itself apart.
The last two do not hang on whether the node can be shown. -/
theorem Form.pass_run :
    (form.pass key child items path s).value =
      (Option.map (Content.widget (key path) (s.held (key path)) (child path s).value
        (items path s).value)) <$> form.content ∧
    (form.pass key child items path s).store =
      (match form.reach with
      | .nothing => s
      | .seed seed => s.sown (key path) seed
      | .child => (child path s).store
      | .items => (items path s).store) ∧
    (form.pass key child items path s).events.filterMap Event.input? =
      (match form.reach with
      | .child => (child path s).events.filterMap Event.input?
      | .items => (items path s).events.filterMap Event.input?
      | _ => []) := by
  have hinputs := form.pass_events key child items path s Event.input?_blind
  refine and_assoc.mp ⟨?_, hinputs⟩
  -- A branch comes down to its last report and what is rendered before it.
  cases form with
  | still reading =>
    simp only [pass, content, reach, Pass.ofReport_run, and_true]
    rcases reading.outcome with _ | _ | _ <;> rfl
  | field reading =>
    simp only [pass, content, reach, Pass.bind_run, Pass.here_run, Pass.ofReport_unlessFault_run]
    cases reading.outcome <;> exact ⟨rfl, rfl⟩
  | input seed =>
    simp only [pass, content, reach, Pass.ofReport_unlessFault_run]
    rcases seed.outcome with _ | _ | seed
    · exact ⟨rfl, rfl⟩
    · exact ⟨rfl, rfl⟩
    · simp only [Pass.bind_run, Pass.here_run, Pass.pure_run, seed.sow_run, and_true]
      rfl
  | wrapper opening =>
    simp only [pass, content, reach, Pass.ofReport_unlessFault_run]
    rcases opening.outcome with _ | ⟨notices, _ | ⟨outer, inner⟩⟩
    · exact ⟨rfl, rfl⟩
    all_goals
      simp only [Pass.bind_run, Pass.ofReport_unlessFault_run, Pass.pure_run, and_true]
      rfl
  | group opening =>
    simp only [pass, content, reach, Pass.ofReport_unlessFault_run]
    rcases opening.outcome with _ | _ | ⟨notices, _ | g⟩
    · exact ⟨rfl, rfl⟩
    · exact ⟨rfl, rfl⟩
    all_goals
      simp only [Pass.bind_run, Pass.ofReport_unlessFault_run, Pass.pure_run, and_true]
      rfl

end Pass

end ServerUi
