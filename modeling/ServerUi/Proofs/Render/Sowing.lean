import ServerUi.Proofs.Render.Inputs
import ServerUi.Proofs.State.Sowing

/-! Rendering as it is seen from the store. It sows the interactive nodes of the document in order;
what is shown hangs on the values that they hold, if their identities differ; and what is logged,
writes to the store apart, does not hang on the store at all. -/

namespace ServerUi

section Changes

variable {images : Option (ImageSource → Report Bool)}

theorem change?_written (changes : List (String × Json)) :
    (written changes).filterMap Event.change? = changes := by
  induction changes with
  | nil => rfl
  | cons change rest ih => exact congrArg (change :: ·) ih

/-- The nodes are sown in the store, and what is replaced on the way is reported. -/
structure Outcome.Sows (o : Outcome α) (s : Store) (is : List Input) : Prop where
  store : o.store = s.sowAll is
  changes : o.events.filterMap Event.change? = s.replacedAll is

/-- Likewise for a value, wherever it is rendered. -/
def Sowing (images : Option (ImageSource → Report Bool)) (v : Json) : Prop :=
  ∀ path s, ((Host.standard images).render v path s).Sows s (inputs images v path)

theorem inputs_of_not_isObject {v : Json} (h : v.isObject = false) (path : Path) :
    inputs images v path = [] := by
  cases v with
  | obj config => cases h
  | _ => exact inputs_nothing rfl path

theorem sowing_child {v : Json} (h : Sowing images v) (path : Path) (s : Store) :
    ((Host.standard images).renderChild v path s).Sows s
      (inputs images v (path ++ ["child"])) := by
  cases v with
  | obj config =>
    have hbelow := h (path ++ ["child"]) s
    exact ⟨hbelow.store, hbelow.changes⟩
  | _ =>
    rw [inputs_of_not_isObject rfl]
    exact ⟨rfl, rfl⟩

theorem sowing_items {items : List Json} (h : ∀ v ∈ items, Sowing images v) (i : Nat)
    (path : Path) (s : Store) :
    ((Host.standard images).renderItems i items path s).Sows s (inputsOf images path i items) := by
  induction items generalizing i s with
  | nil => exact ⟨rfl, rfl⟩
  | cons v rest ih =>
    have hrest := ih fun u hu => h u (List.mem_cons_of_mem v hu)
    rw [inputsOf]
    by_cases hv : v.isObject = true
    · have hfirst := h v List.mem_cons_self (path ++ [toString i]) s
      have hsecond := hrest (i + 1) (s.sowAll (inputs images v (path ++ [toString i])))
      rw [Host.renderItems_object _ hv, hfirst.store]
      refine ⟨?_, ?_⟩
      · rw [Store.sowAll_append]
        exact hsecond.store
      · rw [Store.replacedAll_append, Outcome.before, List.filterMap_append, hfirst.changes,
          hsecond.changes]
    · have hfalse : v.isObject = false := Bool.eq_false_iff.mpr hv
      rw [Host.renderItems_skipped _ hfalse, inputs_of_not_isObject hfalse]
      exact ⟨(hrest (i + 1) s).store, (hrest (i + 1) s).changes⟩

theorem change?_last (path : Path) (key : Path → String)
    (outcome : Except Fault (Option Widget)) :
    (lastEvents path key outcome).filterMap Event.change? = [] := by
  cases outcome <;> rfl

theorem sowing (v : Json) : Sowing images v := by
  induction v using form_induction images with
  | refused v e h =>
    intro path s
    rw [render_refused h, inputs_nothing (reachOf_refused h)]
    exact ⟨rfl, rfl⟩
  | node config tag form htag hform hget hitem =>
    intro path s
    let key := identity config
    let child := (Host.standard images).renderChild (config.get "child")
    let items := (Host.standard images).renderItems 0 (config.get "children").items
    obtain ⟨-, hstore, -⟩ := form.pass_run key child items (path ++ [tag]) s
    have hchild := sowing_child hget (path ++ [tag]) s
    have hitems := sowing_items hitem 0 (path ++ [tag]) s
    rw [render_form htag hform, contained_run, inputs_form htag hform]
    refine ⟨?_, ?_⟩
    · refine hstore.trans ?_
      cases form.reach with
      | nothing => rfl
      | seed seed => rfl
      | child => exact hchild.store
      | items => exact hitems.store
    · simp only [List.cons_append, List.filterMap_cons, Event.change?, List.filterMap_append,
        form.pass_frame, change?_notes, change?_last, List.nil_append, List.append_nil]
      cases form.reach with
      | nothing => rfl
      | seed seed =>
        rw [change?_written]
        exact (List.append_nil _).symm
      | child => exact hchild.changes
      | items => exact hitems.changes

end Changes

section Held

variable {images : Option (ImageSource → Report Bool)}

theorem Content.widget_congr {c : Content} {key : String} {value value' : Seed → Json}
    {child child' : Option Widget} {items items' : List Widget}
    (hvalue : ∀ seed, c.reach = .seed seed → value seed = value' seed)
    (hchild : c.reach = .child → child = child') (hitems : c.reach = .items → items = items') :
    c.widget key value child items = c.widget key value' child' items' := by
  cases c with
  | still w => rfl
  | field label hint => rfl
  | input seed => rw [widget, widget, hvalue seed rfl]
  | wrapper outer inner => rw [widget, widget, hchild rfl]
  | group g => rw [widget, widget, hitems rfl]

/-- With distinct identities, a value looks the same with every store in which its interactive nodes
hold the same. -/
def HeldAlone (images : Option (ImageSource → Report Bool)) (v : Json) : Prop :=
  ∀ path s s', ((inputs images v path).map Input.key).Nodup →
    (∀ i ∈ inputs images v path, s.held i.key i.seed = s'.held i.key i.seed) →
    ((Host.standard images).render v path s).value = ((Host.standard images).render v path s').value

theorem heldAlone_child {v : Json} (h : HeldAlone images v) (path : Path) (s s' : Store)
    (hdistinct : ((inputs images v (path ++ ["child"])).map Input.key).Nodup)
    (hheld : ∀ i ∈ inputs images v (path ++ ["child"]),
      s.held i.key i.seed = s'.held i.key i.seed) :
    ((Host.standard images).renderChild v path s).value =
      ((Host.standard images).renderChild v path s').value := by
  cases v with
  | obj config => exact h (path ++ ["child"]) s s' hdistinct hheld
  | _ => rfl

theorem heldAlone_items {items : List Json} (h : ∀ v ∈ items, HeldAlone images v) (i : Nat)
    (path : Path) (s s' : Store)
    (hdistinct : ((inputsOf images path i items).map Input.key).Nodup)
    (hheld : ∀ j ∈ inputsOf images path i items, s.held j.key j.seed = s'.held j.key j.seed) :
    ((Host.standard images).renderItems i items path s).value =
      ((Host.standard images).renderItems i items path s').value := by
  induction items generalizing i s s' with
  | nil => rfl
  | cons v rest ih =>
    have hrest := ih fun u hu => h u (List.mem_cons_of_mem v hu)
    rw [inputsOf] at hdistinct hheld
    by_cases hv : v.isObject = true
    · let first := inputs images v (path ++ [toString i])
      rw [List.map_append] at hdistinct
      obtain ⟨hfirst, hsecond, hapart⟩ := List.nodup_append.mp hdistinct
      have hvalue := h v List.mem_cons_self (path ++ [toString i]) s s' hfirst fun j hj =>
        hheld j (List.mem_append_left _ hj)
      have hstore := (@sowing images v (path ++ [toString i]) s).store
      have hstore' := (@sowing images v (path ++ [toString i]) s').store
      -- What follows meets nothing that the first item has put into either store.
      have hlater : ∀ j ∈ inputsOf images path (i + 1) rest,
          (s.sowAll first).held j.key j.seed = (s'.sowAll first).held j.key j.seed := by
        intro j hj
        have hkey : j.key ∉ first.map Input.key := fun hmem =>
          hapart _ hmem _ (List.mem_map_of_mem hj) rfl
        rw [Store.held_sowAll s hkey, Store.held_sowAll s' hkey]
        exact hheld j (List.mem_append_right _ hj)
      rw [Host.renderItems_object _ hv, Host.renderItems_object _ hv, hstore, hstore']
      simp only [Outcome.before, hvalue]
      exact congrArg _ (hrest (i + 1) _ _ hsecond hlater)
    · have hfalse : v.isObject = false := Bool.eq_false_iff.mpr hv
      rw [inputs_of_not_isObject hfalse, List.nil_append] at hdistinct hheld
      rw [Host.renderItems_skipped _ hfalse, Host.renderItems_skipped _ hfalse]
      exact hrest (i + 1) s s' hdistinct hheld

theorem heldAlone (v : Json) : HeldAlone images v := by
  induction v using form_induction images with
  | refused v e h =>
    intro path s s' _ _
    rw [render_refused h]
    rfl
  | node config tag form htag hform hget hitem =>
    intro path s s' hdistinct hheld
    rw [inputs_form htag hform] at hdistinct hheld
    rw [render_value htag hform, render_value htag hform]
    rcases hc : form.content with fault | _ | c
    · rfl
    · rfl
    · rw [Form.reach_of_content hc] at hdistinct hheld
      refine congrArg some (Content.widget_congr (fun seed hreach => ?_) (fun hreach => ?_)
        fun hreach => ?_)
      · rw [hreach] at hheld
        exact hheld _ List.mem_cons_self
      · rw [hreach] at hdistinct hheld
        exact heldAlone_child hget _ s s' hdistinct hheld
      · rw [hreach] at hdistinct hheld
        exact heldAlone_items hitem 0 _ s s' hdistinct hheld

end Held

/-- A record that is not only there for debugging. -/
def Event.loud? (e : Event) : Option Notice := e.notice?.filter (Notice.reaches .info)

section Loud

variable {images : Option (ImageSource → Report Bool)}

theorem loud?_written (changes : List (String × Json)) :
    (written changes).filterMap Event.loud? = [] := by
  induction changes with
  | nil => rfl
  | cons change rest ih => exact ih

theorem loud?_last (path : Path) (key : Path → String) (g g' : Content → Widget)
    (content : Except Fault (Option Content)) :
    (lastEvents path key (Option.map g <$> content)).filterMap Event.loud? =
      (lastEvents path key (Option.map g' <$> content)).filterMap Event.loud? := by
  rcases content with _ | _ | c <;> rfl

/-- What is logged from a level on, wherever a value is rendered, is the same with every store. -/
def LoudAlone (images : Option (ImageSource → Report Bool)) (v : Json) : Prop :=
  ∀ path s s', ((Host.standard images).render v path s).events.filterMap Event.loud? =
    ((Host.standard images).render v path s').events.filterMap Event.loud?

theorem loudAlone_child {v : Json} (h : LoudAlone images v) (path : Path) (s s' : Store) :
    ((Host.standard images).renderChild v path s).events.filterMap Event.loud? =
      ((Host.standard images).renderChild v path s').events.filterMap Event.loud? := by
  cases v with
  | obj config => exact h (path ++ ["child"]) s s'
  | _ => rfl

theorem loudAlone_items {items : List Json} (h : ∀ v ∈ items, LoudAlone images v) (i : Nat)
    (path : Path) (s s' : Store) :
    ((Host.standard images).renderItems i items path s).events.filterMap Event.loud? =
      ((Host.standard images).renderItems i items path s').events.filterMap Event.loud? := by
  induction items generalizing i s s' with
  | nil => rfl
  | cons v rest ih =>
    have hrest := ih fun u hu => h u (List.mem_cons_of_mem v hu)
    by_cases hv : v.isObject = true
    · have hfirst := h v List.mem_cons_self (path ++ [toString i]) s s'
      rw [Host.renderItems_object _ hv, Host.renderItems_object _ hv]
      simp only [Outcome.before, List.filterMap_append, hfirst]
      exact congrArg _ (hrest (i + 1) _ _)
    · have hfalse : v.isObject = false := Bool.eq_false_iff.mpr hv
      rw [Host.renderItems_skipped _ hfalse, Host.renderItems_skipped _ hfalse]
      exact hrest (i + 1) s s'

theorem loudAlone (v : Json) : LoudAlone images v := by
  induction v using form_induction images with
  | refused v e h =>
    intro path s s'
    rw [render_refused h]
    rfl
  | node config tag form htag hform hget hitem =>
    intro path s s'
    let key := identity config
    let child := (Host.standard images).renderChild (config.get "child")
    let items := (Host.standard images).renderItems 0 (config.get "children").items
    obtain ⟨hvalue, -, -⟩ := form.pass_run key child items (path ++ [tag]) s
    obtain ⟨hvalue', -, -⟩ := form.pass_run key child items (path ++ [tag]) s'
    have hsteady := pass_steady hform
    have hpath : (form.pass key child items (path ++ [tag]) s).path = path ++ [tag] :=
      hsteady.path_eq _ s
    have hpath' : (form.pass key child items (path ++ [tag]) s').path = path ++ [tag] :=
      hsteady.path_eq _ s'
    have hmiddle : (form.pass key child items (path ++ [tag]) s).events.filterMap Event.loud? =
        (form.pass key child items (path ++ [tag]) s').events.filterMap Event.loud? := by
      simp only [form.pass_frame, List.filterMap_append]
      cases form.reach with
      | nothing => rfl
      | seed seed => simp only [loud?_written]
      | child =>
        have hchild := loudAlone_child hget (path ++ [tag]) s s'
        simp only [child, hchild]
      | items =>
        have hitems := loudAlone_items hitem 0 (path ++ [tag]) s s'
        simp only [items, hitems]
    rw [render_form htag hform, contained_run, contained_run]
    simp only [List.cons_append, List.filterMap_cons, List.filterMap_append]
    refine congrArg₂ (fun middle last => middle ++ last) hmiddle ?_
    rw [hpath, hpath', hvalue, hvalue']
    exact loud?_last _ _ _ _ _

end Loud

end ServerUi
