import ServerUi.Proofs.Render.Sowing
import ServerUi.Proofs.Session.History

/-! Sessions with a document whose interactive nodes all have identities of their own. The two kinds
of store cannot be told apart by what is shown and logged, and rendering the document again changes
nothing. -/

namespace ServerUi

/-- The records that are not only there for debugging. -/
def Logged.loud (l : Logged α) : Logged α :=
  { l with notices := l.notices.filter (Notice.reaches .info) }

theorem noticesOf_loud (events : List Event) :
    (Session.noticesOf events).filter (Notice.reaches .info) = events.filterMap Event.loud? := by
  induction events with
  | nil => rfl
  | cons e rest ih =>
    cases e with
    | note n =>
      by_cases hloud : n.reaches .info = true
      · have hsome : (Event.note n).loud? = some n := by
          rw [Event.loud?, Event.notice?, Option.filter_some, if_pos hloud]
        rw [List.filterMap_cons_some hsome, ← ih]
        exact List.filter_cons_of_pos hloud
      · have hnone : (Event.note n).loud? = none := by
          rw [Event.loud?, Event.notice?, Option.filter_some, if_neg hloud]
        rw [List.filterMap_cons_none hnone, ← ih]
        exact List.filter_cons_of_neg hloud
    | _ => exact ih

/-- A leaf that is changed ends up the same with every store, and so does what is logged of it. -/
theorem Leaf.change_alone (l : Leaf) (v : Json) (s s' : Store) :
    (l.change v s).1 = (l.change v s').1 ∧
    (l.change v s).2.2.filterMap Event.loud? = (l.change v s').2.2.filterMap Event.loud? := by
  have hwrite (key : String) (u : Json) (s : Store) :
      (s.write key u).2.filterMap Event.loud? = [] := by
    cases s <;> rfl
  cases l with
  | checkbox label cell =>
    cases cell with
    | none => exact ⟨rfl, rfl⟩
    | some cell =>
      refine ⟨rfl, ?_⟩
      simp only [change, Cell.write, List.filterMap_append, hwrite]
  | dropdown options label cell =>
    cases cell with
    | none => exact ⟨rfl, rfl⟩
    | some cell =>
      cases v with
      | str choice =>
        by_cases hoption : options.contains choice = true
        · refine ⟨?_, ?_⟩
          · simp only [change, hoption, if_true, Cell.write]
          · simp only [change, hoption, if_true, Cell.write, List.filterMap_append, hwrite]
        · refine ⟨?_, ?_⟩ <;> simp only [change, if_neg hoption]
      | _ => exact ⟨rfl, rfl⟩
  | _ => exact ⟨rfl, rfl⟩

namespace Session

/-- The user's changes of the widgets of a tree, one after another, with the answer to each. -/
def changes (x : Session) (name : String) :
    List (Nat × Json) → List (Except Refusal (Logged Widget)) × Session
  | [] => ([], x)
  | (place, v) :: rest =>
    match x.change name place v with
    | .error refusal => ((x.changes name rest).1.cons (.error refusal), (x.changes name rest).2)
    | .ok (logged, y) => ((y.changes name rest).1.cons (.ok logged), (y.changes name rest).2)

section Twins

variable {x y : Session}

theorem change_twin (htrees : x.trees = y.trees) (name : String) (place : Nat) (v : Json) :
    (∃ refusal, x.change name place v = .error refusal ∧
      y.change name place v = .error refusal) ∨
    ∃ logged x' logged' y', x.change name place v = .ok (logged, x') ∧
      y.change name place v = .ok (logged', y') ∧ logged.loud = logged'.loud ∧
      x'.trees = y'.trees := by
  have hwidget : x.widget name place = y.widget name place := by
    simp only [widget, widgets, htrees]
  unfold change
  rw [hwidget]
  rcases y.widget name place with refusal | l | ⟨w, child⟩ | ⟨g, children⟩
  · exact .inl ⟨refusal, rfl, rfl⟩
  · by_cases hchangeable : (Widget.leaf l).isChangeable = true
    · obtain ⟨hleaf, hloud⟩ := l.change_alone v x.store y.store
      have hanswer :
          (x.changeLeaf name place v l).1.loud = (y.changeLeaf name place v l).1.loud := by
        simp only [changeLeaf, Logged.loud, noticesOf_loud, hleaf, hloud]
      have hafter :
          (x.changeLeaf name place v l).2.trees = (y.changeLeaf name place v l).2.trees := by
        simp only [changeLeaf, hleaf, htrees]
      exact .inr ⟨_, _, _, _, if_pos hchangeable, if_pos hchangeable, hanswer, hafter⟩
    · exact .inl ⟨.notChangeable (.leaf l), if_neg hchangeable, if_neg hchangeable⟩
  · exact .inl ⟨.notChangeable (.wrapper w child), rfl, rfl⟩
  · exact .inl ⟨.notChangeable (.group g children), rfl, rfl⟩

theorem changes_twin (htrees : x.trees = y.trees) (name : String) (calls : List (Nat × Json)) :
    (x.changes name calls).1.map (Except.map Logged.loud) =
      (y.changes name calls).1.map (Except.map Logged.loud) ∧
    (x.changes name calls).2.trees = (y.changes name calls).2.trees := by
  induction calls generalizing x y with
  | nil => exact ⟨rfl, htrees⟩
  | cons call rest ih =>
    obtain ⟨place, v⟩ := call
    rcases change_twin htrees name place v with
      ⟨refusal, hx, hy⟩ | ⟨logged, x', logged', y', hx, hy, hloud, hafter⟩
    · obtain ⟨hanswers, hrest⟩ := ih htrees
      simp only [changes, hx, hy, List.map_cons, hanswers, hrest, and_self]
    · obtain ⟨hanswers, hrest⟩ := ih hafter
      have hanswer : Except.map Logged.loud (.ok logged : Except Refusal (Logged Widget)) =
          Except.map Logged.loud (.ok logged') := congrArg Except.ok hloud
      simp only [changes, hx, hy, List.map_cons, hanswers, hanswer, hrest, and_self]

end Twins

end Session

/-- A document whose interactive nodes have distinct identities is shown to the user, and changed by
the user, with an ephemeral store as with a memory store that is empty at first. The tree is the
same, its values included, behind every sequence of changes; each change is refused or accepted
alike; and what is logged differs only in what is there for debugging. -/
theorem Session.stores_indistinguishable (images : Option (ImageSource → Report Bool))
    (snackbar : Option (Custom String)) (name : String) (document : Json)
    (hdistinct : ((inputs images document []).map Input.key).Nodup) (calls : List (Nat × Json)) :
    let x := (Session.start (Host.standard images) .ephemeral snackbar).render name document
    let y := (Session.start (Host.standard images) (.memory []) snackbar).render name document
    let xs := x.2.changes name calls
    let ys := y.2.changes name calls
    x.1.loud = y.1.loud ∧
    xs.1.map (Except.map Logged.loud) = ys.1.map (Except.map Logged.loud) ∧
    xs.2.trees = ys.2.trees ∧ xs.2.widgets name = ys.2.widgets name := by
  intro x y xs ys
  have hheld : ∀ i ∈ inputs images document [],
      Store.ephemeral.held i.key i.seed = (Store.memory []).held i.key i.seed := fun _ _ => rfl
  have hvalue := heldAlone document [] .ephemeral (.memory []) hdistinct hheld
  have hloud := @loudAlone images document [] .ephemeral (.memory [])
  have hrender : x.1.loud = y.1.loud := by
    simp only [x, y, Session.render, Session.perform, Session.start, Logged.loud, noticesOf_loud,
      hvalue, hloud]
  have htrees : x.2.trees = y.2.trees := congrArg (Session.keep [] name) hvalue
  obtain ⟨hanswers, hafter⟩ := Session.changes_twin htrees name calls
  refine ⟨hrender, hanswers, hafter, ?_⟩
  simp only [Session.widgets, xs, ys, hafter]

section Page

/-- A checkbox and a dropdown, each with an identity of its own. -/
def agreePlan : Json :=
  .obj [("type", .str "column"), ("children", .arr [
    .obj [("type", .str "checkbox"), ("id", .str "agree")],
    .obj [("type", .str "dropdown"), ("id", .str "plan"),
      ("options", .arr [.str "Free", .str "Pro"])]])]

theorem inputs_agreePlan :
    inputs none agreePlan [] =
      [⟨"agree", .checkbox none false⟩, ⟨"plan", .dropdown "Free" ["Pro"] none⟩] := by
  have hcheckbox := @inputs_form none [("type", .str "checkbox"), ("id", .str "agree")]
    "checkbox" _ rfl rfl ["column", "0"]
  have hdropdown := @inputs_form none [("type", .str "dropdown"), ("id", .str "plan"),
    ("options", .arr [.str "Free", .str "Pro"])] "dropdown" _ rfl rfl ["column", "1"]
  refine (inputs_form rfl rfl []).trans ?_
  change inputs none _ ["column", "0"] ++ (inputs none _ ["column", "1"] ++ []) = _
  rw [hcheckbox, hdropdown]
  rfl

theorem Session.stores_indistinguishable_page :
    let x := (Session.start (Host.standard none) .ephemeral none).render "page" agreePlan
    let y := (Session.start (Host.standard none) (.memory []) none).render "page" agreePlan
    let calls := [(1, Json.str "yes"), (2, .str "Pro"), (2, .str "Gold")]
    ((inputs none agreePlan []).map Input.key).Nodup ∧
    (x.2.changes "page" calls).2.trees = (y.2.changes "page" calls).2.trees ∧
    inputsShown ((y.2.changes "page" calls).2.trees.lookup "page").join.toList =
      [("agree", .bool true), ("plan", .str "Pro")] := by
  intro x y calls
  have hdistinct : ((inputs none agreePlan []).map Input.key).Nodup := by
    rw [inputs_agreePlan]
    decide
  have htwins := Session.stores_indistinguishable none none "page" agreePlan hdistinct calls
  exact ⟨hdistinct, htwins.2.2.1, rfl⟩

end Page

/-- Whatever the store of a session holds, a document whose interactive nodes have distinct
identities is rendered a second time as it was the first time: the store is left as it is, no
subscriber hears of anything, and the tree is the same in every field, its values included. -/
theorem Session.render_again (images : Option (ImageSource → Report Bool)) (x : Session)
    (hhost : x.host = Host.standard images) (hpath : x.path = []) (name : String) (document : Json)
    (hdistinct : ((inputs images document []).map Input.key).Nodup) :
    let first := x.render name document
    let again := first.2.render name document
    again.2.store = first.2.store ∧ again.2.remembered = first.2.remembered ∧
    again.2.heard = first.2.heard ∧ again.1.result = first.1.result := by
  intro first again
  let is := inputs images document []
  let settled := x.store.sowAll is
  have hsows (s : Store) : ((Host.standard images).render document [] s).Sows s is :=
    sowing document [] s
  obtain ⟨hsettled, hsilent⟩ := x.store.sowAll_twice hdistinct
  have hvalue := heldAlone document [] settled x.store hdistinct
    (x.store.held_sowAll_self hdistinct)
  have hfirst : x.host.render document x.path x.store =
      (Host.standard images).render document [] x.store := by
    rw [hhost, hpath]
  have hfirstHost : first.2.host = Host.standard images := hhost
  have hfirstPath : first.2.path = [] := by
    refine (congrArg Outcome.path hfirst).trans ?_
    exact ((Host.standard images).render_steady document).path_eq [] x.store
  have hfirstStore : first.2.store = settled :=
    (congrArg Outcome.store hfirst).trans (hsows x.store).store
  have hagain : first.2.host.render document first.2.path first.2.store =
      (Host.standard images).render document [] settled := by
    rw [hfirstHost, hfirstPath, hfirstStore]
  have hstoreAgain : again.2.store = first.2.store := by
    refine (congrArg Outcome.store hagain).trans ?_
    rw [(hsows settled).store, hsettled, hfirstStore]
  have hheard : again.2.heard = first.2.heard := by
    change first.2.heard ++ ((first.2.host.render document first.2.path
      first.2.store).events.filterMap Event.change?).flatMap _ = first.2.heard
    rw [hagain, (hsows settled).changes, hsilent, List.flatMap_nil, List.append_nil]
  have hresult : again.1.result = first.1.result := by
    refine (congrArg Outcome.value hagain).trans (hvalue.trans ?_)
    exact (congrArg Outcome.value hfirst).symm
  have hremembered : again.2.remembered = first.2.remembered := by
    rw [Session.remembered, Session.remembered, hstoreAgain]
  exact ⟨hstoreAgain, hremembered, hheard, hresult⟩

/-- The dropdown cannot show what is remembered, so the first rendering writes its first option. -/
theorem Session.render_again_stale :
    let values : Config := [("plan", .int 3), ("agree", .str "yes")]
    let x := (Session.start (Host.standard none) (.memory values) none).call .subscribe
    let first := x.render "page" agreePlan
    let again := first.2.render "page" agreePlan
    ((inputs none agreePlan []).map Input.key).Nodup ∧
    first.2.heard.map Heard.key = ["plan"] ∧
    first.2.store.snapshot = [("plan", .str "Free"), ("agree", .str "yes")] ∧
    again.2.store = first.2.store ∧ again.2.heard = first.2.heard ∧
    again.1.result = first.1.result := by
  intro values x first again
  have hdistinct : ((inputs none agreePlan []).map Input.key).Nodup := by
    rw [inputs_agreePlan]
    decide
  have hheard : first.2.heard.map Heard.key = ["plan"] := by decide +kernel
  have hstore : first.2.store.snapshot = [("plan", .str "Free"), ("agree", .str "yes")] := by rfl
  have hagain := Session.render_again none x rfl rfl "page" agreePlan hdistinct
  exact ⟨hdistinct, hheard, hstore, hagain.1, hagain.2.2.1, hagain.2.2.2⟩

end ServerUi
