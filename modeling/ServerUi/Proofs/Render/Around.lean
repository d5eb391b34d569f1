import ServerUi.Proofs.Render.Replacement

/-! An object at a position of a document that is replaced by one that leaves every store as it
does. With any store, the tree around the position is the same, and so is what is left in the
store. -/

namespace ServerUi

/-- An object that leaves every store as another value does, wherever it is rendered. -/
structure Host.StandsIn (host : Host) (old n : Json) : Prop where
  isObject : n.isObject = true
  store_eq : ∀ path s, (host.render n path s).store = (host.render old path s).store

section Slots

variable {host : Host} {old : Json}

theorem renderChild_object {v : Json} (h : v.isObject = true) :
    host.renderChild v = Pass.under "child" (host.render v) := by
  cases v with
  | obj config => rfl
  | _ => cases h

theorem renderItems_set {items : List Json} {i : Nat} (hold : items[i]? = some old)
    (hobject : old.isObject = true) (k : Nat) (path : Path) (s : Store) :
    ∃ before after t, ∀ n, host.StandsIn old n →
      (host.renderItems k (items.set i n) path s).value =
        before ++ (host.render n (path ++ [toString (k + i)]) t).value.toList ++ after ∧
      (host.renderItems k (items.set i n) path s).store =
        (host.renderItems k items path s).store := by
  induction items generalizing i k s with
  | nil => cases hold
  | cons v rest ih =>
    cases i with
    | zero =>
      obtain rfl := Option.some.inj hold
      let t := (host.render v (path ++ [toString k]) s).store
      refine ⟨[], (host.renderItems (k + 1) rest path t).value, s, fun n hn => ?_⟩
      rw [List.set_cons_zero, host.renderItems_object hn.isObject, host.renderItems_object hobject,
        hn.store_eq]
      exact ⟨rfl, rfl⟩
    | succ i =>
      rw [List.getElem?_cons_succ] at hold
      have hindex : k + (i + 1) = k + 1 + i := by omega
      rw [hindex]
      by_cases hv : v.isObject = true
      · obtain ⟨before, after, t, hset⟩ :=
          ih hold (k + 1) (host.render v (path ++ [toString k]) s).store
        let first := (host.render v (path ++ [toString k]) s).value.toList
        refine ⟨first ++ before, after, t, fun n hn => ?_⟩
        obtain ⟨hvalue, hstore⟩ := hset n hn
        rw [List.set_cons_succ, host.renderItems_object hv, host.renderItems_object hv]
        simp only [Outcome.before, hvalue, hstore, List.append_assoc, first, and_self]
      · obtain ⟨before, after, t, hset⟩ := ih hold (k + 1) s
        refine ⟨before, after, t, fun n hn => ?_⟩
        have hfalse : v.isObject = false := Bool.eq_false_iff.mpr hv
        rw [List.set_cons_succ, host.renderItems_skipped hfalse, host.renderItems_skipped hfalse]
        exact hset n hn

end Slots

section Nodes

variable {images : Option (ImageSource → Report Bool)} {config : Config} {slot : Slot} {u n : Json}
  (hu : slot.get? config = some u)

include hu

theorem render_set {tag : String} {form : Form} {c : Content}
    (htag : config.name? "type" = some tag) (hform : Form.ofTag? images tag config = some form)
    (hc : form.content = .ok (some c)) (path : Path) (s : Store) (v : Json) :
    let host := Host.standard images
    let key := identity config (path ++ [tag])
    let config' := slot.set v config
    (host.render (.obj config') path s).value =
      some (c.widget key (s.held key)
        (host.renderChild (config'.get "child") (path ++ [tag]) s).value
        (host.renderItems 0 (config'.get "children").items (path ++ [tag]) s).value) := by
  intro host key config'
  have hagree := slot.set_agree hu v
  have htag' : (slot.set v config).name? "type" = some tag := by
    rw [hagree.name?_eq (by decide) (by decide), htag]
  have hform' : Form.ofTag? images tag (slot.set v config) = some form := by
    rw [ofTag?_agree hagree, hform]
  rw [render_value htag' hform', hc, hagree.identity_eq]
  rfl

/-- What is in the slots of a node that is not built does not show. -/
theorem render_set_unbuilt (hnot : ¬ Built images (.obj config)) (path : Path) (s : Store)
    (v : Json) :
    ((Host.standard images).render (.obj (slot.set v config)) path s).value =
      ((Host.standard images).render (.obj config) path s).value := by
  have hagree := slot.set_agree hu v
  have hname := @Config.Agree.name?_eq _ _ hagree "type" (by decide) (by decide)
  cases htag : config.name? "type" with
  | none =>
    rw [render_refused (.untyped (hname.trans htag)), render_refused (.untyped htag)]
    rfl
  | some tag =>
    have hsame := ofTag?_agree hagree images tag
    cases hform : Form.ofTag? images tag config with
    | none =>
      rw [render_refused (.unknown (hname.trans htag) (hsame.trans hform)),
        render_refused (.unknown htag hform)]
      rfl
    | some form =>
      rw [render_value (hname.trans htag) (hsame.trans hform), render_value htag hform]
      rcases hc : form.content with fault | _ | c
      · rfl
      · rfl
      · refine absurd ⟨tag, ?_⟩ hnot
        rw [fate_form htag hform, hc]

/-- Nor does what is in a slot that nodes of the type do not show. -/
theorem render_set_hidden {tag : String} (htag : config.name? "type" = some tag)
    (hslot : slot.shownIn tag = false) (path : Path) (s : Store) (v : Json) :
    ((Host.standard images).render (.obj (slot.set v config)) path s).value =
      ((Host.standard images).render (.obj config) path s).value := by
  by_cases hbuilt : Built images (.obj config)
  · obtain ⟨_, _, form, c, ⟨⟩, htag', hform, hc⟩ := hbuilt.exists_content
    obtain rfl := Option.some.inj (htag.symm.trans htag')
    have hself := render_set hu htag hform hc path s u
    rw [Slot.set_self hu] at hself
    rw [render_set hu htag hform hc, hself]
    exact congrArg some (content_hidden (ofTag?_fits hform c hc) hslot _ _
      (fun v => ((Host.standard images).renderChild v (path ++ [tag]) s).value)
      (fun items => ((Host.standard images).renderItems 0 items (path ++ [tag]) s).value) v)
  · exact render_set_unbuilt hu hbuilt path s v

variable (hobject : u.isObject = true)

include hobject

section Store

variable {host : Host} (hn : host.StandsIn u n) (path : Path) (s : Store)

include hn

theorem child_store :
    (host.renderChild ((slot.set n config).get "child") path s).store =
      (host.renderChild (config.get "child") path s).store := by
  cases slot with
  | child =>
    have hget : config.get "child" = u := by
      rw [Config.get]
      exact congrArg (·.getD .null) hu
    rw [Slot.set, Config.get_put, if_pos rfl, hget, renderChild_object hn.isObject,
      renderChild_object hobject]
    exact hn.store_eq _ _
  | item i => rw [Slot.set, Config.get_put, if_neg (by decide)]

theorem items_store :
    (host.renderItems 0 ((slot.set n config).get "children").items path s).store =
      (host.renderItems 0 (config.get "children").items path s).store := by
  cases slot with
  | child => rw [Slot.set, Config.get_put, if_neg (by decide)]
  | item i =>
    obtain ⟨items, -, hget, hitem⟩ := Slot.exists_items hu
    obtain ⟨before, after, t, hset⟩ := @renderItems_set host u items i hitem hobject 0 path s
    rw [Slot.set, Config.get_put, if_pos rfl, hget]
    exact (hset n hn).2

end Store

/-- What a node leaves in the store hangs on an object in one of its slots no further than on what
the object leaves there. -/
theorem standsIn_set (hn : (Host.standard images).StandsIn u n) :
    (Host.standard images).StandsIn (.obj config) (.obj (slot.set n config)) := by
  have hagree := slot.set_agree hu n
  have hname := @Config.Agree.name?_eq _ _ hagree "type" (by decide) (by decide)
  refine ⟨rfl, fun path s => ?_⟩
  cases htag : config.name? "type" with
  | none =>
    rw [render_refused (.untyped (hname.trans htag)), render_refused (.untyped htag)]
    rfl
  | some tag =>
    have hsame := ofTag?_agree hagree images tag
    cases hform : Form.ofTag? images tag config with
    | none =>
      rw [render_refused (.unknown (hname.trans htag) (hsame.trans hform)),
        render_refused (.unknown htag hform)]
      rfl
    | some form =>
      rw [render_store (hname.trans htag) (hsame.trans hform), render_store htag hform]
      cases form.reach with
      | nothing => rfl
      | seed seed => exact congrArg (s.sown · seed) (hagree.identity_eq _)
      | child => exact child_store hu hobject hn _ _
      | items => exact items_store hu hobject hn _ _

/-- With any store, what stands in a slot that is shown has the rest of the widget around it. -/
theorem content_enclosed (host : Host) {refuses : Bool} {tag : String} {c : Content}
    (hfits : c.Fits refuses tag) (hshown : slot.shownIn tag = true) (key : String)
    (value : Seed → Json) (path : Path) (s : Store) :
    ∃ layers t, ∀ n, host.StandsIn u n → some (c.widget key value
      (host.renderChild ((slot.set n config).get "child") path s).value
      (host.renderItems 0 ((slot.set n config).get "children").items path s).value) =
        enclosed layers (host.render n (path ++ [slot.segment]) t).value := by
  let childOf (v : Json) := (host.renderChild v path s).value
  let itemsOf (items : List Json) := (host.renderItems 0 items path s).value
  cases slot with
  | child =>
    have hchild : Slot.child = .child → ∀ n, host.StandsIn u n →
        childOf n = (host.render n (path ++ ["child"]) s).value := by
      intro _ n hn
      simp only [childOf, renderChild_object hn.isObject, Pass.under_run]
    obtain ⟨layers, hlayers⟩ :=
      content_around hfits hshown hu key value childOf itemsOf hchild nofun
    exact ⟨layers, s, hlayers⟩
  | item i =>
    obtain ⟨items, -, hget, hitem⟩ := Slot.exists_items hu
    obtain ⟨before, after, t, hset⟩ := @renderItems_set host u items i hitem hobject 0 path s
    have hitems : ∀ j others, Slot.item i = .item j → config.get "children" = .arr others →
        others[j]? = some u → ∃ before after, ∀ n, host.StandsIn u n → itemsOf (others.set j n) =
          before ++ (host.render n (path ++ [toString i]) t).value.toList ++ after := by
      rintro j others ⟨⟩ hothers -
      obtain rfl := Json.arr.inj (hget.symm.trans hothers)
      refine ⟨before, after, fun n hn => ?_⟩
      have hvalue := (hset n hn).1
      rwa [Nat.zero_add] at hvalue
    obtain ⟨layers, hlayers⟩ :=
      content_around hfits hshown hu key value childOf itemsOf nofun hitems
    exact ⟨layers, t, hlayers⟩

/-- A built node around what stands in a slot that it shows. -/
theorem render_set_shown {tag : String} (htag : config.name? "type" = some tag)
    (hbuilt : Built images (.obj config)) (hslot : slot.shownIn tag = true) (path : Path)
    (s : Store) :
    ∃ layers t, ∀ n, (Host.standard images).StandsIn u n →
      ((Host.standard images).render (.obj (slot.set n config)) path s).value =
        enclosed layers
          ((Host.standard images).render n (path ++ [tag] ++ [slot.segment]) t).value := by
  obtain ⟨_, _, form, c, ⟨⟩, htag', hform, hc⟩ := hbuilt.exists_content
  obtain rfl := Option.some.inj (htag.symm.trans htag')
  let key := identity config (path ++ [tag])
  obtain ⟨layers, t, hlayers⟩ := content_enclosed hu hobject (Host.standard images)
    (ofTag?_fits hform c hc) hslot key (s.held key) (path ++ [tag]) s
  refine ⟨layers, t, fun n hn => ?_⟩
  rw [render_set hu htag hform hc]
  exact hlayers n hn

end Nodes

section Position

variable {images : Option (ImageSource → Report Bool)} {v old : Json} {p : List Slot}

theorem Slot.exists_config {slot : Slot} {u : Json} (h : slot.get? v.config = some u) :
    ∃ config, v = .obj config := by
  cases v with
  | obj config => exact ⟨config, rfl⟩
  | _ => cases slot <;> cases h

theorem isObject_of_at? (hold : v.at? p = some old) (hobject : old.isObject = true) :
    v.isObject = true := by
  cases p with
  | nil => exact Option.some.inj hold ▸ hobject
  | cons slot rest =>
    obtain ⟨u, hu, -⟩ := Option.bind_eq_some_iff.mp hold
    obtain ⟨config, rfl⟩ := Slot.exists_config hu
    rfl

theorem standsIn_replace (hold : v.at? p = some old) (hobject : old.isObject = true) {n : Json}
    (hn : (Host.standard images).StandsIn old n) :
    (Host.standard images).StandsIn v (v.replace p n) := by
  induction p generalizing v with
  | nil => exact Option.some.inj hold ▸ hn
  | cons slot rest ih =>
    obtain ⟨u, hget, hu⟩ := Option.bind_eq_some_iff.mp hold
    obtain ⟨config, rfl⟩ := Slot.exists_config hget
    have hslot : slot.get? config = some u := hget
    rw [replace_cons hslot]
    exact standsIn_set hslot (isObject_of_at? hu hobject) (ih hu)

/-- With any store, the tree around a position that is shown does not hang on what stands there. -/
theorem render_replace (hopen : Open images v p) (hold : v.at? p = some old)
    (hobject : old.isObject = true) (hshown : v.shows p = true) (path : Path) (s : Store) :
    ∃ layers t, ∀ n, (Host.standard images).StandsIn old n →
      ((Host.standard images).render (v.replace p n) path s).value =
        enclosed layers ((Host.standard images).render n (v.wayTo path p) t).value := by
  induction p generalizing v path s with
  | nil => exact ⟨[], s, fun n _ => rfl⟩
  | cons slot rest ih =>
    obtain ⟨hbuilt, hrest⟩ := hopen
    obtain ⟨config, tag, -, -, rfl, htag, -, -⟩ := hbuilt.exists_content
    obtain ⟨u, hget, hold⟩ := Option.bind_eq_some_iff.mp hold
    have hu : slot.get? config = some u := hget
    rw [shows_cons hu htag, Bool.and_eq_true] at hshown
    obtain ⟨outer, t, houter⟩ :=
      render_set_shown hu (isObject_of_at? hold hobject) htag hbuilt hshown.1 path s
    obtain ⟨inner, t', hinner⟩ :=
      ih (hrest u hu) hold hshown.2 (path ++ [tag] ++ [slot.segment]) t
    refine ⟨outer ++ inner, t', fun n hn => ?_⟩
    rw [replace_cons hu, houter _ (standsIn_replace hold hobject hn), hinner n hn, enclosed_append,
      wayTo_cons hu htag]

/-- At any other position, nothing of what stands there shows. -/
theorem render_replace_hidden (hold : v.at? p = some old) (hobject : old.isObject = true)
    (hhidden : ¬ (Open images v p ∧ v.shows p = true)) {n : Json}
    (hn : (Host.standard images).StandsIn old n) (path : Path) (s : Store) :
    ((Host.standard images).render (v.replace p n) path s).value =
      ((Host.standard images).render v path s).value := by
  induction p generalizing v path s with
  | nil => exact absurd ⟨trivial, rfl⟩ hhidden
  | cons slot rest ih =>
    obtain ⟨u, hget, hrest⟩ := Option.bind_eq_some_iff.mp hold
    obtain ⟨config, rfl⟩ := Slot.exists_config hget
    have hu : slot.get? config = some u := hget
    have hobject' := isObject_of_at? hrest hobject
    rw [replace_cons hu]
    by_cases hbuilt : Built images (.obj config)
    · obtain ⟨_, tag, -, -, ⟨⟩, htag, -, -⟩ := hbuilt.exists_content
      by_cases hslot : slot.shownIn tag = true
      · -- The first step is shown, so it is the rest of the position that is not.
        have hbelow : ¬ (Open images u rest ∧ u.shows rest = true) := by
          rintro ⟨hopen, hshows⟩
          refine hhidden ⟨⟨hbuilt, fun w hw => ?_⟩, ?_⟩
          · obtain rfl := Option.some.inj (hu.symm.trans hw)
            exact hopen
          · rw [shows_cons hu htag, hslot, hshows]
            rfl
        obtain ⟨layers, t, hlayers⟩ := render_set_shown hu hobject' htag hbuilt hslot path s
        have hself := hlayers u ⟨hobject', fun _ _ => rfl⟩
        rw [Slot.set_self hu] at hself
        rw [hlayers _ (standsIn_replace hrest hobject hn), hself, ih hrest hbelow]
      · exact render_set_hidden hu htag (Bool.eq_false_iff.mpr hslot) path s _
    · exact render_set_unbuilt hu hbuilt path s _

end Position

end ServerUi
