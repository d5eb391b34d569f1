import ServerUi.Proofs.Builder.Kinds
import ServerUi.Proofs.Render.Document
import ServerUi.Proofs.State.Ledger
import ServerUi.Proofs.Widget.Walk

/-! The interactive nodes of a document, in order. A node counts as soon as its value is bound, also
if a node above it cannot be shown in the end. Rendering does to a memory store what these nodes do
to a ledger. -/

namespace ServerUi

def indexed : Nat → List Json → List (String × Json)
  | _, [] => []
  | i, v :: rest => (toString i, v) :: indexed (i + 1) rest

theorem mem_of_indexed {items : List Json} {i : Nat} {u : String × Json}
    (h : u ∈ indexed i items) : u.2 ∈ items := by
  induction items generalizing i with
  | nil => cases h
  | cons v rest ih =>
    rcases List.mem_cons.mp h with rfl | h
    · exact List.mem_cons_self
    · exact List.mem_cons_of_mem v (ih h)

/-- How far a value gets as a node. -/
def reachOf (images : Option (ImageSource → Report Bool)) : Json → Form.Reach
  | .obj config =>
    match Config.name? config "type" with
    | none => .nothing
    | some tag => (Form.ofTag? images tag config).elim .nothing Form.reach
  | _ => .nothing

theorem exists_config_of_reach {images : Option (ImageSource → Report Bool)} {v : Json}
    {r : Form.Reach} (h : reachOf images v = r) (hr : r ≠ .nothing) :
    ∃ config, v = .obj config := by
  cases v with
  | obj config => exact ⟨config, rfl⟩
  | _ => exact absurd h.symm hr

/-- The interactive nodes that are bound when a value is rendered. -/
def inputs (images : Option (ImageSource → Report Bool)) (v : Json) (path : Path) : List Input :=
  let here := path ++ [v.config.tag]
  match h : reachOf images v with
  | .nothing => []
  | .seed seed => [⟨identity v.config here, seed⟩]
  | .child => inputs images (v.config.get "child") (here ++ ["child"])
  | .items =>
    (indexed 0 (v.config.get "children").items).attach.flatMap fun u =>
      inputs images u.1.2 (here ++ [u.1.1])
termination_by sizeOf v
decreasing_by
  · obtain ⟨config, rfl⟩ := exists_config_of_reach h (by simp)
    exact Json.sizeOf_get_lt config "child"
  · obtain ⟨config, rfl⟩ := exists_config_of_reach h (by simp)
    exact Nat.lt_trans (Json.sizeOf_item_lt (mem_of_indexed u.2))
      (Json.sizeOf_get_lt config "children")

section Inputs

variable {images : Option (ImageSource → Report Bool)} {config : Config}

def inputsOf (images : Option (ImageSource → Report Bool)) (path : Path) :
    Nat → List Json → List Input
  | _, [] => []
  | i, v :: rest => inputs images v (path ++ [toString i]) ++ inputsOf images path (i + 1) rest

theorem inputsOf_eq (path : Path) (i : Nat) (items : List Json) :
    (indexed i items).flatMap (fun u => inputs images u.2 (path ++ [u.1])) =
      inputsOf images path i items := by
  induction items generalizing i with
  | nil => rfl
  | cons v rest ih => rw [indexed, List.flatMap_cons, ih, inputsOf]

theorem inputs_nothing {v : Json} (h : reachOf images v = .nothing) (path : Path) :
    inputs images v path = [] := by
  rw [inputs]
  split <;> simp_all

theorem reachOf_refused {v : Json} {e : NodeError} (h : Refused images v e) :
    reachOf images v = .nothing := by
  cases h with
  | plain h =>
    cases v with
    | obj config => cases h
    | _ => rfl
  | untyped htag => simp only [reachOf, htag]
  | unknown htag hform => simp only [reachOf, htag, hform, Option.elim_none]

theorem reachOf_form {tag : String} {form : Form} (htag : config.name? "type" = some tag)
    (hform : Form.ofTag? images tag config = some form) :
    reachOf images (.obj config) = form.reach := by
  simp only [reachOf, htag, hform, Option.elim_some]

theorem inputs_form {tag : String} {form : Form} (htag : config.name? "type" = some tag)
    (hform : Form.ofTag? images tag config = some form) (path : Path) :
    inputs images (.obj config) path =
      match form.reach with
      | .nothing => []
      | .seed seed => [⟨identity config (path ++ [tag]), seed⟩]
      | .child => inputs images (config.get "child") (path ++ [tag] ++ ["child"])
      | .items => inputsOf images (path ++ [tag]) 0 (config.get "children").items := by
  have hreach := reachOf_form htag hform
  rw [inputs, Json.config, Config.tag_eq htag]
  split
  · next h => rw [← hreach, h]
  · next seed h => rw [← hreach, h]
  · next h => rw [← hreach, h]
  · next h =>
    rw [← hreach, h, ← inputsOf_eq]
    exact (List.flatMap_subtype fun _ _ => rfl).trans (congrArg _ List.unattach_attach)

end Inputs

def inputsShown (ws : List Widget) : List (String × Json) :=
  (ws.flatMap Widget.walk).filterMap Widget.input?

theorem inputsShown_append (ws vs : List Widget) :
    inputsShown (ws ++ vs) = inputsShown ws ++ inputsShown vs := by
  simp only [inputsShown, List.flatMap_append, List.filterMap_append]

theorem inputsShown_wrapper (w : Wrapper) (child : Option Widget) :
    inputsShown [.wrapper w child] = inputsShown child.toList := by
  have hnone : (Widget.wrapper w child).input? = none := rfl
  simp only [inputsShown, List.flatMap_cons, List.flatMap_nil, List.append_nil,
    Widget.walk_wrapper, List.filterMap_cons_none hnone]
  cases child <;> simp

theorem inputsShown_nested (inner : List Wrapper) (child : Option Widget) :
    inputsShown (nested inner child).toList = inputsShown child.toList := by
  induction inner with
  | nil => rfl
  | cons w rest ih => rw [nested, Option.toList_some, inputsShown_wrapper, ih]

theorem inputsShown_group (g : Group) (ws : List Widget) :
    inputsShown [.group g ws] = inputsShown ws := by
  have hnone : (Widget.group g ws).input? = none := rfl
  simp only [inputsShown, List.flatMap_cons, List.flatMap_nil, List.append_nil,
    Widget.walk_group, List.filterMap_cons_none hnone]

theorem inputsShown_still {refuses : Bool} {tag : String} {w : Widget}
    (h : (Content.still w).Fits refuses tag) : w.input? = none ∧ inputsShown [w] = [] := by
  rcases h.still_cases with ⟨l, rfl, hkind⟩ | ⟨p, rfl⟩
  · cases l with
    | checkbox label cell => simp [Leaf.kind] at hkind
    | dropdown options label cell => simp [Leaf.kind] at hkind
    | _ => exact ⟨rfl, rfl⟩
  · exact ⟨rfl, rfl⟩

theorem Form.content_of_seed {form : Form} {seed : Seed} (h : form.reach = .seed seed) :
    form.content = .ok (some (.input seed)) := by
  cases form with
  | still reading => cases h
  | field reading => cases h
  | input reading =>
    rcases hr : reading.outcome with _ | _ | other <;> rw [reach, hr] at h <;> cases h
    rw [content, hr]
    rfl
  | wrapper opening => cases hr : opening.outcome <;> rw [reach, hr] at h <;> cases h
  | group opening => rcases hr : opening.outcome with _ | _ | _ <;> rw [reach, hr] at h <;> cases h

/-- Interactive nodes are built on the way to a store, and no others: the store holds what they come
to in the ledger, they show what the ledger says, and a tree has some of them, in their order. -/
structure Recorded (m : Ledger) (is : List Input) (ws : List Widget) (s : Store)
    (events : List Event) : Prop where
  holds : s.Holds (m.play is).1
  built : events.filterMap Event.input? = (m.play is).2
  shown : (inputsShown ws).Sublist (m.play is).2

namespace Recorded

variable {m : Ledger} {is js : List Input} {ws vs : List Widget} {s t : Store}
  {events more : List Event}

theorem nil (h : s.Holds m) (hevents : events.filterMap Event.input? = [])
    (hshown : inputsShown ws = []) : Recorded m [] ws s events :=
  ⟨h, hevents, hshown ▸ .slnil⟩

theorem append (h : Recorded m is ws s events) (hmore : Recorded (m.play is).1 js vs t more) :
    Recorded m (is ++ js) (ws ++ vs) t (events ++ more) := by
  constructor
  · rw [Ledger.play_append]
    exact hmore.holds
  · rw [Ledger.play_append, List.filterMap_append, h.built, hmore.built]
  · rw [Ledger.play_append, inputsShown_append]
    exact h.shown.append hmore.shown

theorem weaken (h : Recorded m is ws s events)
    (hevents : more.filterMap Event.input? = events.filterMap Event.input?)
    (hshown : (inputsShown vs).Sublist (inputsShown ws)) : Recorded m is vs s more :=
  ⟨h.holds, hevents.trans h.built, hshown.trans h.shown⟩

end Recorded

section Tracked

variable {images : Option (ImageSource → Report Bool)}

/-- Rendering a value does to a store what its interactive nodes do to a ledger. -/
def Tracked (images : Option (ImageSource → Report Bool)) (v : Json) : Prop :=
  ∀ path s m, s.Holds m →
    let o := (Host.standard images).render v path s
    Recorded m (inputs images v path) o.value.toList o.store o.events

theorem tracked_child {v : Json} (h : Tracked images v) {path : Path} {s : Store} {m : Ledger}
    (hs : s.Holds m) :
    let o := (Host.standard images).renderChild v path s
    Recorded m (inputs images v (path ++ ["child"])) o.value.toList o.store o.events := by
  cases v with
  | obj config => exact h (path ++ ["child"]) s m hs
  | _ =>
    rw [inputs_nothing rfl]
    exact .nil hs rfl rfl

theorem tracked_items {items : List Json} (h : ∀ v ∈ items, Tracked images v) (i : Nat)
    {path : Path} {s : Store} {m : Ledger} (hs : s.Holds m) :
    let o := (Host.standard images).renderItems i items path s
    Recorded m (inputsOf images path i items) o.value o.store o.events := by
  induction items generalizing i s m with
  | nil => exact .nil hs rfl rfl
  | cons v rest ih =>
    have hrest := fun {s m} => @ih (fun u hu => h u (List.mem_cons_of_mem v hu)) (i + 1) s m
    rw [inputsOf]
    cases hv : v.isObject with
    | true =>
      have hfirst := h v List.mem_cons_self (path ++ [toString i]) s m hs
      have hsecond := hrest hfirst.holds
      rw [Host.renderItems_object _ hv]
      exact hfirst.append hsecond
    | false =>
      have hnothing : inputs images v (path ++ [toString i]) = [] := by
        cases v with
        | obj config => cases hv
        | _ => exact inputs_nothing rfl _
      rw [Host.renderItems_skipped _ hv, hnothing, List.nil_append]
      exact (hrest hs).weaken rfl (List.Sublist.refl _)

def partsShown (reach : Form.Reach) (child : Option Widget) (items : List Widget) : List Widget :=
  match reach with
  | .child => child.toList
  | .items => items
  | _ => []

theorem tracked_parts {config : Config} {tag : String} {form : Form}
    (htag : config.name? "type" = some tag) (hform : Form.ofTag? images tag config = some form)
    (hget : Tracked images (config.get "child"))
    (hitem : ∀ v ∈ (config.get "children").items, Tracked images v)
    (hseed : ∀ seed, form.reach ≠ .seed seed) (path : Path) {s : Store} {m : Ledger}
    (hs : s.Holds m) :
    let child := (Host.standard images).renderChild (config.get "child")
    let items := (Host.standard images).renderItems 0 (config.get "children").items
    let o := form.pass (identity config) child items (path ++ [tag]) s
    Recorded m (inputs images (.obj config) path)
      (partsShown form.reach (child (path ++ [tag]) s).value (items (path ++ [tag]) s).value)
      o.store o.events := by
  intro child items o
  obtain ⟨-, hstore, hinputs⟩ := form.pass_run (identity config) child items (path ++ [tag]) s
  rw [inputs_form htag hform]
  simp only [o, hstore]
  cases hr : form.reach with
  | nothing =>
    rw [hr] at hinputs
    exact .nil hs hinputs rfl
  | seed seed => exact absurd hr (hseed seed)
  | child =>
    rw [hr] at hinputs
    exact (tracked_child hget hs).weaken hinputs (List.Sublist.refl _)
  | items =>
    rw [hr] at hinputs
    exact (tracked_items hitem 0 hs).weaken hinputs (List.Sublist.refl _)

theorem shown_parts {form : Form} {refuses : Bool} {tag : String} (hfits : form.Fits refuses tag)
    (hseed : ∀ seed, form.reach ≠ .seed seed) (key : String) (value : Seed → Json)
    (child : Option Widget) (items : List Widget) :
    let w := inPlace ((Option.map (Content.widget key value child items)) <$> form.content)
    w.toList.filterMap Widget.input? = [] ∧
      (inputsShown w.toList).Sublist (inputsShown (partsShown form.reach child items)) := by
  rcases hc : form.content with fault | _ | c
  · exact ⟨rfl, List.nil_sublist _⟩
  · exact ⟨rfl, List.nil_sublist _⟩
  · have hreach := Form.reach_of_content hc
    rw [hreach]
    cases c with
    | still w =>
      obtain ⟨hinput, hshown⟩ := inputsShown_still (hfits _ hc)
      change [w].filterMap Widget.input? = [] ∧ (inputsShown [w]).Sublist _
      rw [hshown, List.filterMap_cons_none hinput]
      exact ⟨rfl, List.nil_sublist _⟩
    | field label hint => exact ⟨rfl, List.nil_sublist _⟩
    | input seed => exact absurd hreach (hseed seed)
    | wrapper outer inner =>
      change [Widget.wrapper outer (nested inner child)].filterMap Widget.input? = [] ∧
        (inputsShown [.wrapper outer (nested inner child)]).Sublist (inputsShown child.toList)
      rw [inputsShown_wrapper, inputsShown_nested]
      exact ⟨rfl, List.Sublist.refl _⟩
    | group g =>
      change [Widget.group g items].filterMap Widget.input? = [] ∧
        (inputsShown [.group g items]).Sublist (inputsShown items)
      rw [inputsShown_group]
      exact ⟨rfl, List.Sublist.refl _⟩

theorem contained_inputs (path path' : Path) (key : Path → String) (k : String)
    (events : List Event) (outcome : Except Fault (Option Widget)) :
    (.built path k :: events ++ lastEvents path' key outcome).filterMap Event.input? =
      events.filterMap Event.input? ++ (inPlace outcome).toList.filterMap Widget.input? := by
  rw [List.cons_append, List.filterMap_cons_none rfl, List.filterMap_append]
  rcases outcome with fault | _ | w <;> rfl

theorem tracked_form {config : Config} {tag : String} {form : Form}
    (htag : config.name? "type" = some tag) (hform : Form.ofTag? images tag config = some form)
    (hget : Tracked images (config.get "child"))
    (hitem : ∀ v ∈ (config.get "children").items, Tracked images v) :
    Tracked images (.obj config) := by
  intro path s m hs
  let key := identity config (path ++ [tag])
  let child := (Host.standard images).renderChild (config.get "child")
  let items := (Host.standard images).renderItems 0 (config.get "children").items
  let o := form.pass (identity config) child items (path ++ [tag]) s
  obtain ⟨hvalue, hstore, hinputs⟩ :=
    form.pass_run (identity config) child items (path ++ [tag]) s
  change o.value = _ at hvalue
  change o.store = _ at hstore
  change o.events.filterMap Event.input? = _ at hinputs
  rw [render_form htag hform, contained_run]
  change Recorded m _ (inPlace o.value).toList o.store
    (.built (path ++ [tag]) key :: o.events ++ lastEvents o.path (identity config) o.value)
  -- An input is entered as it is built; any other node passes on what its parts do.
  by_cases h : ∃ seed, form.reach = .seed seed
  · obtain ⟨seed, hr⟩ := h
    rw [Form.content_of_seed hr] at hvalue
    rw [hr] at hstore hinputs
    rw [inputs_form htag hform, hr]
    have hleaf : inputsShown [.leaf (seed.leaf ⟨key, s.held key seed⟩)] =
        [(key, (m.enter ⟨key, seed⟩).shows ⟨key, seed⟩)] :=
      List.filterMap_cons_some (hs.input?_leaf key seed)
    refine ⟨?_, ?_, ?_⟩
    · rw [hstore]
      exact hs.sown key seed
    · rw [contained_inputs, hinputs, hvalue]
      exact hleaf
    · rw [hvalue]
      change (inputsShown [.leaf (seed.leaf ⟨key, s.held key seed⟩)]).Sublist
        [(key, (m.enter ⟨key, seed⟩).shows ⟨key, seed⟩)]
      simp only [hleaf, List.Sublist.refl]
  · have hseed : ∀ seed, form.reach ≠ .seed seed := fun seed hr => h ⟨seed, hr⟩
    have hparts := tracked_parts htag hform hget hitem hseed path hs
    obtain ⟨hinput, hshown⟩ := shown_parts (ofTag?_fits hform) hseed key (s.held key)
      (child (path ++ [tag]) s).value (items (path ++ [tag]) s).value
    rw [← hvalue] at hinput hshown
    refine hparts.weaken ?_ hshown
    rw [contained_inputs, hinput, List.append_nil]

theorem tracked (v : Json) : Tracked images v := by
  induction v using form_induction images with
  | refused v e h =>
    intro path s m hs
    rw [render_refused h, inputs_nothing (reachOf_refused h)]
    exact .nil hs rfl rfl
  | node config tag form htag hform hget hitem => exact tracked_form htag hform hget hitem

end Tracked

end ServerUi
