import ServerUi.Proofs.Render.Inputs
import ServerUi.Proofs.Render.Trail

/-! The identities of the nodes of a document. The path of a node spells out its position, so no two
nodes have the same path, and the identity of a node hangs on its own `id`, on the types on the way
to it and on the steps between them. -/

namespace ServerUi

def Event.built? : Event → Option (Path × String)
  | built path key => some (path, key)
  | _ => none

theorem Event.built?_blind : Event.Blind Event.built? := ⟨fun _ => rfl, fun _ _ => rfl⟩

/-- The path of an interactive node that is done, and the identity that its value is bound under. -/
def Event.bound? : Event → Option (Path × String)
  | finished path (some w) => w.input?.map fun i => (path, i.1)
  | _ => none

theorem Event.bound?_blind : Event.Blind Event.bound? := ⟨fun _ => rfl, fun _ _ => rfl⟩

/-- There is a standard builder for a value. -/
def Json.hasBuilder (v : Json) : Bool :=
  v.isObject && (Registry.standard.lookup v.config.tag).isSome

/-- The positions of the nodes whose builders run when a value is rendered, in order. -/
def begun (images : Option (ImageSource → Report Bool)) (v : Json) : List (List Slot) :=
  (if v.hasBuilder then [[]] else []) ++
    match _h : reachOf images v with
    | .child => (begun images (v.config.get "child")).map (Slot.child :: ·)
    | .items =>
      (v.config.get "children").items.zipIdx.attach.flatMap fun u =>
        (begun images u.1.1).map (Slot.item u.1.2 :: ·)
    | .nothing => []
    | .seed _ => []
termination_by sizeOf v
decreasing_by
  · obtain ⟨config, rfl⟩ := exists_config_of_reach _h (by simp)
    exact Json.sizeOf_get_lt config "child"
  · obtain ⟨config, rfl⟩ := exists_config_of_reach _h (by simp)
    have hitem : u.1.1 ∈ (Config.get config "children").items := List.fst_mem_of_mem_zipIdx u.2
    exact Nat.lt_trans (Json.sizeOf_item_lt hitem) (Json.sizeOf_get_lt config "children")

def begunIn (images : Option (ImageSource → Report Bool)) : Nat → List Json → List (List Slot)
  | _, [] => []
  | i, v :: rest => (begun images v).map (Slot.item i :: ·) ++ begunIn images (i + 1) rest

section Begun

variable {images : Option (ImageSource → Report Bool)} {config : Config}

theorem begunIn_eq (items : List Json) (i : Nat) :
    (items.zipIdx i).flatMap (fun u => (begun images u.1).map (Slot.item u.2 :: ·)) =
      begunIn images i items := by
  induction items generalizing i with
  | nil => rfl
  | cons v rest ih => rw [List.zipIdx_cons, List.flatMap_cons, ih, begunIn]

theorem begun_eq (v : Json) :
    begun images v = (if v.hasBuilder then [[]] else []) ++
      match reachOf images v with
      | .child => (begun images (v.config.get "child")).map (Slot.child :: ·)
      | .items => begunIn images 0 (v.config.get "children").items
      | _ => [] := by
  rw [begun]
  congr 1
  split
  · next h => simp only [h]
  · next h =>
    simp only [h]
    rw [← begunIn_eq]
    exact (List.flatMap_subtype fun _ _ => rfl).trans (congrArg _ List.unattach_attach)
  · next h => simp only [h]
  · next seed h => simp only [h]

theorem begun_refused {v : Json} {e : NodeError} (h : Refused images v e) :
    begun images v = [] := by
  have hnone : v.hasBuilder = false := by
    cases h with
    | plain h => rw [Json.hasBuilder, h, Bool.false_and]
    | untyped htag =>
      rw [Json.hasBuilder, Json.config, Config.tag, htag]
      rfl
    | unknown htag hform =>
      rw [Json.hasBuilder, Json.config, Config.tag_eq htag, lookup_of_ofTag?_none hform]
      rfl
  rw [begun_eq, hnone, reachOf_refused h]
  rfl

theorem begun_form {tag : String} {form : Form} (htag : config.name? "type" = some tag)
    (hform : Form.ofTag? images tag config = some form) :
    begun images (.obj config) = [] ::
      match form.reach with
      | .child => (begun images (config.get "child")).map (Slot.child :: ·)
      | .items => begunIn images 0 (config.get "children").items
      | _ => [] := by
  have hsome : (Json.obj config).hasBuilder = true := by
    obtain ⟨b, hb, -⟩ := run_form hform
    rw [Json.hasBuilder, Json.config, Config.tag_eq htag, hb]
    rfl
  rw [begun_eq, hsome, reachOf_form htag hform]
  rfl

theorem mem_begunIn {items : List Json} {i : Nat} {p : List Slot} (h : p ∈ begunIn images i items) :
    ∃ j rest, p = .item j :: rest ∧ i ≤ j := by
  induction items generalizing i with
  | nil => cases h
  | cons v rest ih =>
    rcases List.mem_append.mp h with hfirst | hrest
    · obtain ⟨q, -, rfl⟩ := List.mem_map.mp hfirst
      exact ⟨i, q, rfl, Nat.le_refl i⟩
    · obtain ⟨j, q, hp, hle⟩ := ih hrest
      exact ⟨j, q, hp, by omega⟩

theorem nodup_begunIn {items : List Json} (h : ∀ v ∈ items, (begun images v).Nodup) (i : Nat) :
    (begunIn images i items).Nodup := by
  induction items generalizing i with
  | nil => exact List.nodup_nil
  | cons v rest ih =>
    have hfirst : ((begun images v).map (Slot.item i :: ·)).Nodup :=
      List.Pairwise.map _ (fun _ _ hne heq => hne (List.cons.inj heq).2) (h v List.mem_cons_self)
    have hrest := ih (fun u hu => h u (List.mem_cons_of_mem v hu)) (i + 1)
    refine List.nodup_append.mpr ⟨hfirst, hrest, ?_⟩
    rintro p hp _ hq rfl
    obtain ⟨more, -, rfl⟩ := List.mem_map.mp hp
    obtain ⟨j, other, heq, hle⟩ := mem_begunIn hq
    have hj : Slot.item i = Slot.item j := (List.cons.inj heq).1
    injection hj with hj
    omega

theorem nodup_begun (v : Json) : (begun images v).Nodup := by
  induction v using form_induction images with
  | refused v e h =>
    rw [begun_refused h]
    exact List.nodup_nil
  | node config tag form htag hform hget hitem =>
    rw [begun_form htag hform]
    refine List.nodup_cons.mpr ?_
    split
    · exact ⟨by simp, List.Pairwise.map _ (fun _ _ hne heq => hne (List.cons.inj heq).2) hget⟩
    · refine ⟨fun hnil => ?_, nodup_begunIn hitem 0⟩
      obtain ⟨j, rest, heq, -⟩ := mem_begunIn hnil
      cases heq
    · exact ⟨List.not_mem_nil, List.nodup_nil⟩

/-- How far the node around a slot gets if the slot is entered. -/
def Slot.reach : Slot → Form.Reach
  | child => .child
  | item _ => .items

theorem hasBuilder_of_reach {v : Json} (h : reachOf images v ≠ .nothing) :
    v.hasBuilder = true := by
  cases v with
  | obj config =>
    cases htag : Config.name? config "type" with
    | none => exact absurd (by rw [reachOf, htag]) h
    | some tag =>
      cases hb : Registry.standard.lookup tag with
      | none =>
        have hform := ofTag?_eq_none images hb config
        exact absurd (by simp only [reachOf, htag, hform, Option.elim_none]) h
      | some b =>
        rw [Json.hasBuilder, Json.config, Config.tag_eq htag, hb]
        rfl
  | _ => exact absurd rfl h

theorem cons_mem_begunIn {items : List Json} {slot : Slot} {rest : List Slot} :
    slot :: rest ∈ begunIn images 0 items ↔
      ∃ i u, slot = .item i ∧ items[i]? = some u ∧ rest ∈ begun images u := by
  rw [← begunIn_eq, List.mem_flatMap]
  constructor
  · rintro ⟨⟨u, i⟩, hu, hmem⟩
    obtain ⟨q, hq, heq⟩ := List.mem_map.mp hmem
    obtain ⟨rfl, rfl⟩ := List.cons.inj heq
    exact ⟨i, u, rfl, List.mem_zipIdx_iff_getElem?.mp hu, hq⟩
  · rintro ⟨i, u, rfl, hu, hrest⟩
    exact ⟨(u, i), List.mem_zipIdx_iff_getElem?.mpr hu, List.mem_map_of_mem hrest⟩

theorem nil_mem_begun {v : Json} : [] ∈ begun images v ↔ v.hasBuilder = true := by
  have hbelow : [] ∉ begunIn images 0 (v.config.get "children").items := by
    intro h
    obtain ⟨j, rest, heq, -⟩ := mem_begunIn h
    cases heq
  rw [begun_eq]
  cases v.hasBuilder <;> cases reachOf images v <;> simp [hbelow]

theorem begun_null : begun images .null = [] := begun_refused (.plain rfl)

theorem cons_mem_begun {v : Json} {slot : Slot} {rest : List Slot} :
    slot :: rest ∈ begun images v ↔
      reachOf images v = slot.reach ∧ rest ∈ begun images (slot.value v.config) := by
  have hbelow : slot :: rest ∉ (if v.hasBuilder then [[]] else []) := by
    cases v.hasBuilder <;> simp
  rw [begun_eq, List.mem_append, or_iff_right hbelow]
  cases hr : reachOf images v with
  | child =>
    cases slot with
    | child => simp [Slot.reach, Slot.value, Slot.get?, Config.get]
    | item i => simp [Slot.reach]
  | items =>
    rw [cons_mem_begunIn]
    cases slot with
    | child => simp [Slot.reach]
    | item i =>
      cases hu : (v.config.get "children").items[i]? <;>
        simp [Slot.reach, Slot.value, Slot.get?, hu, begun_null]
  | nothing => cases slot <;> simp [Slot.reach]
  | seed seed => cases slot <;> simp [Slot.reach]

theorem slash_notMem_tag {v : Json} (h : v.hasBuilder = true) : '/' ∉ v.config.tag.toList := by
  have htags : ∀ m ∈ Registry.standard.entries, '/' ∉ m.1.toList := by
    decide
  have hsome := (Bool.and_eq_true_iff.mp h).2
  obtain ⟨b, hb⟩ := Option.isSome_iff_exists.mp hsome
  exact htags _ (mem_of_lookup hb)

theorem slash_notMem_segment (slot : Slot) : '/' ∉ slot.segment.toList := by
  cases slot with
  | child => decide
  | item i => exact slash_notMem_toString i

theorem slash_notMem_trail {v : Json} {p : List Slot} (h : p ∈ begun images v) :
    ∀ segment ∈ v.trail p, '/' ∉ segment.toList := by
  induction p generalizing v with
  | nil =>
    have htag := slash_notMem_tag (nil_mem_begun.mp h)
    simpa only [Json.trail, List.mem_singleton, forall_eq] using htag
  | cons slot rest ih =>
    obtain ⟨hreach, hrest⟩ := cons_mem_begun.mp h
    have hne : reachOf images v ≠ .nothing := by
      rw [hreach]
      cases slot <;> exact Form.Reach.noConfusion
    simp only [Json.trail, List.forall_mem_cons]
    exact ⟨slash_notMem_tag (hasBuilder_of_reach hne), slash_notMem_segment slot, ih hrest⟩

theorem pathText_injective {v : Json} {p q : List Slot} (hp : p ∈ begun images v)
    (hq : q ∈ begun images v) (h : v.pathText p = v.pathText q) : p = q := by
  have htrail := intercalate_slash_injective (slash_notMem_trail hp) (slash_notMem_trail hq)
    (v.trail_ne_nil p) (v.trail_ne_nil q) h
  exact Json.trail_injective htrail

theorem Config.Agree.reachOf_eq {other : Config} (h : config.Agree other) :
    reachOf images (.obj config) = reachOf images (.obj other) := by
  rw [reachOf, reachOf, h.name?_eq (by decide) (by decide)]
  cases Config.name? other "type" with
  | none => rfl
  | some tag => exact congrArg (Option.elim · _ _) (ofTag?_agree h images tag)

/-- A node whose builder runs is also built when a value is replaced that it does not stand in. -/
theorem mem_begun_replace {v : Json} {p r : List Slot} (n : Json) (hp : p ∈ begun images v)
    (h : ¬ r <+: p) : p ∈ begun images (v.replace r n) := by
  induction r generalizing v p with
  | nil => exact absurd List.nil_prefix h
  | cons slot rest ih =>
    cases hu : slot.get? v.config with
    | none => rwa [Json.replace_of_get?_none hu]
    | some u =>
      obtain ⟨config, rfl, hget⟩ := Json.exists_config_of_get? hu
      have hagree := Slot.set_agree hget (u.replace rest n)
      rw [replace_cons hget]
      cases p with
      | nil =>
        have hbuilder := nil_mem_begun.mp hp
        rw [Json.hasBuilder, Json.config, ← hagree.tag_eq] at hbuilder
        exact nil_mem_begun.mpr hbuilder
      | cons other more =>
        obtain ⟨hreach, hmore⟩ := cons_mem_begun.mp hp
        refine cons_mem_begun.mpr ⟨hagree.reachOf_eq.trans hreach, ?_⟩
        by_cases hslot : slot = other
        · subst hslot
          have hrest : ¬ rest <+: more := fun hpre => h ((List.prefix_cons_inj slot).mpr hpre)
          rw [Json.config, Slot.value_of_get? hget] at hmore
          rw [Json.config, Slot.value_set_self hget]
          exact ih hmore hrest
        · rw [Json.config, Slot.value_set_of_ne hget _ hslot]
          exact hmore

end Begun

/-- The path and the identity of the node at a position, when its document is rendered at a path. -/
def Json.named (v : Json) (path : Path) (p : List Slot) : Path × String :=
  (path ++ v.trail p, identity (v.nodeAt p).config (path ++ v.trail p))

theorem Json.named_cons (v : Json) (path : Path) (slot : Slot) (rest : List Slot) :
    v.named path (slot :: rest) =
      (slot.value v.config).named (path ++ [v.config.tag] ++ [slot.segment]) rest := by
  simp only [named, trail, nodeAt_cons, List.append_assoc, List.cons_append, List.nil_append]

/-- The nodes of items, from an index on, each with its path and its identity. -/
def namedIn (images : Option (ImageSource → Report Bool)) (path : Path) :
    Nat → List Json → List (Path × String)
  | _, [] => []
  | i, v :: rest =>
    (begun images v).map (v.named (path ++ [toString i])) ++ namedIn images path (i + 1) rest

/-- The builders of some nodes run, in order. Each value that is bound on the way is bound under the
identity of one of them, and a tree shows some of the values that are bound. -/
structure Traces (nodes : List (Path × String)) (ws : List Widget) (events : List Event) : Prop where
  built : events.filterMap Event.built? = nodes
  bound : (events.filterMap Event.bound?).Sublist nodes
  shown : ((inputsShown ws).map Prod.fst).Sublist ((events.filterMap Event.bound?).map Prod.snd)

namespace Traces

variable {nodes others : List (Path × String)} {ws vs : List Widget} {events more : List Event}

theorem nil (hbuilt : events.filterMap Event.built? = [])
    (hbound : events.filterMap Event.bound? = []) (hshown : inputsShown ws = []) :
    Traces [] ws events :=
  ⟨hbuilt, hbound ▸ .slnil, by rw [hshown]; exact List.nil_sublist _⟩

theorem append (h : Traces nodes ws events) (hmore : Traces others vs more) :
    Traces (nodes ++ others) (ws ++ vs) (events ++ more) := by
  constructor
  · rw [List.filterMap_append, h.built, hmore.built]
  · rw [List.filterMap_append]
    exact h.bound.append hmore.bound
  · rw [inputsShown_append, List.filterMap_append, List.map_append, List.map_append]
    exact h.shown.append hmore.shown

theorem weaken (h : Traces nodes ws events)
    (hbuilt : more.filterMap Event.built? = events.filterMap Event.built?)
    (hbound : more.filterMap Event.bound? = events.filterMap Event.bound?)
    (hshown : (inputsShown vs).Sublist (inputsShown ws)) : Traces nodes vs more := by
  refine ⟨hbuilt.trans h.built, hbound ▸ h.bound, ?_⟩
  rw [hbound]
  exact (hshown.map Prod.fst).trans h.shown

end Traces

section Traced

variable {images : Option (ImageSource → Report Bool)} {config : Config}

def Traced (images : Option (ImageSource → Report Bool)) (v : Json) : Prop :=
  ∀ path s,
    let o := (Host.standard images).render v path s
    Traces ((begun images v).map (v.named path)) o.value.toList o.events

theorem traced_child {v : Json} (h : Traced images v) (path : Path) (s : Store) :
    let o := (Host.standard images).renderChild v path s
    Traces ((begun images v).map (v.named (path ++ ["child"]))) o.value.toList o.events := by
  cases v with
  | obj config => exact h (path ++ ["child"]) s
  | _ =>
    rw [begun_refused (.plain rfl)]
    exact .nil rfl rfl rfl

theorem traced_items {items : List Json} (h : ∀ v ∈ items, Traced images v) (i : Nat) (path : Path)
    (s : Store) :
    let o := (Host.standard images).renderItems i items path s
    Traces (namedIn images path i items) o.value o.events := by
  induction items generalizing i s with
  | nil => exact .nil rfl rfl rfl
  | cons v rest ih =>
    have hrest := ih (fun u hu => h u (List.mem_cons_of_mem v hu)) (i + 1)
    rw [namedIn]
    cases hv : v.isObject with
    | true =>
      have hfirst := h v List.mem_cons_self (path ++ [toString i]) s
      rw [Host.renderItems_object _ hv]
      exact hfirst.append (hrest _)
    | false =>
      rw [Host.renderItems_skipped _ hv, begun_refused (.plain hv), List.map_nil, List.nil_append]
      exact (hrest s).weaken rfl rfl (List.Sublist.refl _)

theorem map_begunIn_named (path : Path) :
    (begunIn images 0 (config.get "children").items).map ((Json.obj config).named path) =
      namedIn images (path ++ [config.tag]) 0 (config.get "children").items := by
  have hfrom : ∀ (items : List Json) (i : Nat), (config.get "children").items.drop i = items →
      (begunIn images i items).map ((Json.obj config).named path) =
        namedIn images (path ++ [config.tag]) i items := by
    intro items
    induction items with
    | nil => exact fun _ _ => rfl
    | cons v rest ih =>
      intro i hdrop
      have hitem : (config.get "children").items[i]? = some v := by
        rw [← List.head?_drop, hdrop, List.head?_cons]
      have hvalue : (Slot.item i).value config = v := Slot.value_of_get? hitem
      have hrest := ih (i + 1) (by rw [← List.tail_drop, hdrop, List.tail_cons])
      simp only [begunIn, namedIn, List.map_append, List.map_map, hrest]
      refine congrArg (· ++ _) (List.map_congr_left fun p _ => ?_)
      rw [Function.comp_apply, Json.named_cons, Json.config, hvalue]
      rfl
  exact hfrom _ 0 rfl

theorem contained_built (path path' : Path) (key : Path → String) (k : String)
    (events : List Event) (outcome : Except Fault (Option Widget)) :
    (.built path k :: events ++ lastEvents path' key outcome).filterMap Event.built? =
      (path, k) :: events.filterMap Event.built? := by
  rw [List.cons_append, List.filterMap_cons, List.filterMap_append]
  rcases outcome with fault | _ | w <;> exact congrArg _ (List.append_nil _)

theorem contained_bound (path path' : Path) (key : Path → String) (k : String)
    (events : List Event) (outcome : Except Fault (Option Widget)) :
    (.built path k :: events ++ lastEvents path' key outcome).filterMap Event.bound? =
      events.filterMap Event.bound? ++
        ((inPlace outcome).toList.filterMap Widget.input?).map fun i => (path', i.1) := by
  rw [List.cons_append, List.filterMap_cons_none rfl, List.filterMap_append, List.map_filterMap]
  rcases outcome with fault | _ | w <;> rfl

/-- The nodes below a node of a form are traced by what the form passes on. -/
theorem traced_parts {tag : String} (form : Form) (htag : config.name? "type" = some tag)
    (hget : Traced images (config.get "child"))
    (hitem : ∀ v ∈ (config.get "children").items, Traced images v) (path : Path) (s : Store) :
    let child := (Host.standard images).renderChild (config.get "child")
    let items := (Host.standard images).renderItems 0 (config.get "children").items
    Traces
      ((match form.reach with
        | .child => (begun images (config.get "child")).map (Slot.child :: ·)
        | .items => begunIn images 0 (config.get "children").items
        | _ => []).map ((Json.obj config).named path))
      (partsShown form.reach (child (path ++ [tag]) s).value (items (path ++ [tag]) s).value)
      (form.pass (identity config) child items (path ++ [tag]) s).events := by
  intro child items
  have hbuilt := form.pass_events (identity config) child items (path ++ [tag]) s
    Event.built?_blind
  have hbound := form.pass_events (identity config) child items (path ++ [tag]) s
    Event.bound?_blind
  cases hr : form.reach with
  | nothing =>
    rw [hr] at hbuilt hbound
    exact .nil hbuilt hbound rfl
  | seed seed =>
    rw [hr] at hbuilt hbound
    exact .nil hbuilt hbound rfl
  | child =>
    rw [hr] at hbuilt hbound
    have hchild := traced_child hget (path ++ [tag]) s
    have hnamed : (Json.obj config).named path ∘ (Slot.child :: ·) =
        (config.get "child").named (path ++ [tag] ++ ["child"]) := by
      funext p
      rw [Function.comp_apply, Json.named_cons, Json.config, Config.tag_eq htag]
      rfl
    rw [List.map_map, hnamed]
    exact hchild.weaken hbuilt hbound (List.Sublist.refl _)
  | items =>
    rw [hr] at hbuilt hbound
    have hitems := traced_items hitem 0 (path ++ [tag]) s
    rw [map_begunIn_named, Config.tag_eq htag]
    exact hitems.weaken hbuilt hbound (List.Sublist.refl _)

theorem Seed.input?_leaf (seed : Seed) (cell : Cell) :
    ∃ v, (Widget.leaf (seed.leaf cell)).input? = some (cell.key, v) := by
  cases seed <;> exact ⟨_, rfl⟩

theorem traced_form {tag : String} {form : Form} (htag : config.name? "type" = some tag)
    (hform : Form.ofTag? images tag config = some form)
    (hget : Traced images (config.get "child"))
    (hitem : ∀ v ∈ (config.get "children").items, Traced images v) :
    Traced images (.obj config) := by
  intro path s
  let here := path ++ [tag]
  let key := identity config here
  let child := (Host.standard images).renderChild (config.get "child")
  let items := (Host.standard images).renderItems 0 (config.get "children").items
  let o := form.pass (identity config) child items here s
  have hvalue : o.value = _ := (form.pass_run (identity config) child items here s).1
  have hpath : o.path = here := (pass_steady hform).path_eq here s
  have hparts : Traces _ _ o.events := traced_parts form htag hget hitem path s
  have hself : (Json.obj config).named path [] = (here, key) := by
    rw [Json.named, Json.trail, Json.config, Config.tag_eq htag]
    rfl
  rw [render_form htag hform, contained_run, begun_form htag hform, List.map_cons, hself]
  change Traces _ (inPlace o.value).toList
    (.built here key :: o.events ++ lastEvents o.path (identity config) o.value)
  -- An input is bound as it is done; any other node passes on what its parts do.
  by_cases h : ∃ seed, form.reach = .seed seed
  · obtain ⟨seed, hr⟩ := h
    have hbelow : o.events.filterMap Event.bound? = [] := by
      have hevents := form.pass_events (identity config) child items here s Event.bound?_blind
      rwa [hr] at hevents
    obtain ⟨v, hleaf⟩ := seed.input?_leaf ⟨key, s.held key seed⟩
    have hshown : inputsShown [.leaf (seed.leaf ⟨key, s.held key seed⟩)] = [(key, v)] :=
      List.filterMap_cons_some hleaf
    rw [Form.content_of_seed hr] at hvalue
    refine ⟨?_, ?_, ?_⟩
    · rw [contained_built, hparts.built]
    · rw [contained_bound, hpath, hbelow, hvalue]
      change ((inputsShown [.leaf (seed.leaf ⟨key, s.held key seed⟩)]).map _).Sublist _
      rw [hshown]
      exact (List.nil_sublist _).cons_cons (here, key)
    · rw [contained_bound, hpath, hbelow, hvalue]
      change ((inputsShown [.leaf (seed.leaf ⟨key, s.held key seed⟩)]).map _).Sublist
        (((inputsShown [.leaf (seed.leaf ⟨key, s.held key seed⟩)]).map _).map _)
      rw [hshown]
      exact List.Sublist.refl _
  · have hseed : ∀ seed, form.reach ≠ .seed seed := fun seed hr => h ⟨seed, hr⟩
    obtain ⟨hinput, hshown⟩ := shown_parts (ofTag?_fits hform) hseed key (s.held key)
      (child here s).value (items here s).value
    rw [← hvalue] at hinput hshown
    have hbound := contained_bound here o.path (identity config) key o.events o.value
    rw [hinput, List.map_nil, List.append_nil] at hbound
    refine ⟨?_, ?_, ?_⟩
    · rw [contained_built, hparts.built]
    · rw [hbound]
      exact hparts.bound.cons (here, key)
    · rw [hbound]
      exact (hshown.map Prod.fst).trans hparts.shown

theorem traced (v : Json) : Traced images v := by
  induction v using form_induction images with
  | refused v e h =>
    intro path s
    rw [render_refused h, begun_refused h]
    exact .nil rfl rfl rfl
  | node config tag form htag hform hget hitem => exact traced_form htag hform hget hitem

end Traced

/-- Collecting the messages of the errors adds no more than two kinds of records. -/
theorem present_seen {f : Event → Option β} (hempty : f (.note .documentEmpty) = none)
    (herrors : ∀ n, f (.note (.documentErrors n)) = none) (host : Host) (document : Json)
    (s : Store) :
    (host.present document s).events.filterMap f =
      (host.render document [] s).events.filterMap f := by
  rw [Host.present, Host.presentation, Pass.bind_run]
  cases (host.render document [] s).value with
  | none =>
    simp only [Pass.bind_run, Pass.emit_run, Pass.pure_run, List.filterMap_append,
      List.filterMap_cons_none hempty, List.filterMap_nil, List.append_nil]
  | some w =>
    simp only [Pass.bind_run, Pass.emit_run, Pass.pure_run, List.filterMap_append]
    split <;> simp only [List.filterMap_cons_none (herrors _), List.filterMap_nil, List.append_nil]

theorem present_events {f : Event → Option β} (hf : Event.Blind f) (host : Host) (document : Json)
    (s : Store) :
    (host.present document s).events.filterMap f =
      (host.render document [] s).events.filterMap f :=
  present_seen (hf.note _) (fun _ => hf.note _) host document s

theorem nodup_keys {document : Json} {nodes : List (List Slot)} (hnodup : nodes.Nodup)
    (hids : ∀ p ∈ nodes, document.id? p = none)
    (hpaths : ∀ p ∈ nodes, ∀ q ∈ nodes, p ≠ q → document.pathText p ≠ document.pathText q) :
    (nodes.map document.key).Nodup := by
  refine List.pairwise_map.mpr (hnodup.imp_of_mem fun hp hq hne hkey => ?_)
  rw [Json.key_eq, Json.key_eq, hids _ hp, hids _ hq] at hkey
  exact hpaths _ hp _ hq hne hkey

/-- Every node whose builder runs has a path of its own, also as one text. So two nodes have the same
identity by an `id` that both have, or by one that is the path of the other. What is bound is bound
under the identity of its node, and without ids under one of its own. An identity hangs on the `id`
of the node and on the types and the steps on the way to it. It is the same, and the node is built,
whatever is put in place of a value that the node does not stand in, so every item counts, also one
that is no object, is not shown or is an error. -/
theorem present_identities (images : Option (ImageSource → Report Bool)) (document : Json)
    (s : Store) :
    let o := (Host.standard images).present document s
    let nodes := begun images document
    let bound := o.events.filterMap Event.bound?
    let shown := (o.value.widget.elim [] Widget.walk).filterMap Widget.input?
    o.events.filterMap Event.built? = nodes.map (fun p => (document.trail p, document.key p)) ∧
    nodes.Nodup ∧
    (∀ p ∈ nodes, ∀ q ∈ nodes, p ≠ q → document.pathText p ≠ document.pathText q) ∧
    (∀ p ∈ nodes, ∀ q ∈ nodes, p ≠ q → document.key p = document.key q →
      (∃ name, document.id? p = some name ∧ document.id? q = some name) ∨
        document.id? p = some (document.pathText q) ∨ document.id? q = some (document.pathText p)) ∧
    bound.Sublist (o.events.filterMap Event.built?) ∧
    (shown.map Prod.fst).Sublist (bound.map Prod.snd) ∧
    ((∀ p ∈ nodes, document.id? p = none) → (bound.map Prod.snd).Nodup) ∧
    (∀ (other : Json) (p : List Slot),
      (∀ q, q <+: p → (document.nodeAt q).config.tag = (other.nodeAt q).config.tag) →
      document.id? p = other.id? p → document.key p = other.key p) ∧
    ∀ p ∈ nodes, ∀ (r : List Slot) (n : Json), ¬ r <+: p →
      p ∈ begun images (document.replace r n) ∧ (document.replace r n).key p = document.key p := by
  intro o nodes bound shown
  have htraces : Traces (nodes.map fun p => (document.trail p, document.key p))
      ((Host.standard images).render document [] s).value.toList o.events :=
    (traced document [] s).weaken (present_events Event.built?_blind _ document s)
      (present_events Event.bound?_blind _ document s) (List.Sublist.refl _)
  have hpaths : ∀ p ∈ nodes, ∀ q ∈ nodes, p ≠ q → document.pathText p ≠ document.pathText q :=
    fun p hp q hq hne h => hne (pathText_injective hp hq h)
  refine ⟨htraces.built, nodup_begun document, hpaths, ?_, ?_, ?_, ?_, ?_, ?_⟩
  · intro p hp q hq hne hkey
    exact Json.key_eq_cases hkey (hpaths p hp q hq hne)
  · rw [htraces.built]
    exact htraces.bound
  · have hshown := htraces.shown
    have heq : shown = inputsShown ((Host.standard images).render document [] s).value.toList := by
      simp only [shown, o, Host.present_value, inputsShown]
      cases ((Host.standard images).render document [] s).value <;> simp
    rw [heq]
    exact hshown
  · intro hids
    have hkeys := nodup_keys (nodup_begun document) hids hpaths
    have hsub := htraces.bound.map Prod.snd
    rw [List.map_map] at hsub
    exact hkeys.sublist hsub
  · intro other p htags hid
    exact Json.key_congr htags hid
  · intro p hp r n h
    exact ⟨mem_begun_replace n hp h, document.key_replace n h⟩

theorem present_identities_items :
    let checkbox (members : Config) := Json.obj (("type", .str "checkbox") :: members)
    let column (items : List Json) := Json.obj [("type", .str "column"), ("children", .arr items)]
    let plain := column [.null, checkbox [], .int 7, checkbox []]
    let shared := column [.null, checkbox [], .int 7, checkbox [("id", .str "column/1/checkbox")]]
    let o := (Host.standard none).present plain .ephemeral
    (∀ p ∈ begun none plain, plain.id? p = none) ∧
    ((o.events.filterMap Event.bound?).map Prod.snd).Nodup ∧
    (o.events.filterMap Event.bound?).map Prod.snd = ["column/1/checkbox", "column/3/checkbox"] ∧
    [.item 1] ∈ begun none shared ∧ [.item 3] ∈ begun none shared ∧
    shared.key [.item 1] = shared.key [.item 3] ∧
    ((∃ name, shared.id? [.item 1] = some name ∧ shared.id? [.item 3] = some name) ∨
      shared.id? [.item 1] = some (shared.pathText [.item 3]) ∨
      shared.id? [.item 3] = some (shared.pathText [.item 1])) ∧
    (shared.replace [.item 0] (checkbox [])).key [.item 3] = shared.key [.item 3] ∧
    plain.key [.item 1] = shared.key [.item 1] := by
  intro checkbox column plain shared o
  have hbox : begun none (checkbox []) = [[]] := by
    rw [begun_eq]
    rfl
  have hshared : begun none (checkbox [("id", .str "column/1/checkbox")]) = [[]] := by
    rw [begun_eq]
    rfl
  have hcolumn (v : Json) (h : begun none v = [[]]) :
      begun none (column [.null, checkbox [], .int 7, v]) = [[], [.item 1], [.item 3]] := by
    have hseven : begun none (.int 7) = [] := begun_refused (.plain rfl)
    rw [begun_eq]
    change [[]] ++ begunIn none 0 [.null, checkbox [], .int 7, v] = _
    simp only [begunIn, begun_null, hseven, hbox, h]
    rfl
  have hplain := hcolumn _ hbox
  have hnodes := hcolumn _ hshared
  obtain ⟨-, -, -, -, -, -, hnodup, -, -⟩ := present_identities none plain .ephemeral
  obtain ⟨-, -, -, hkeys, -, -, -, hcongr, hreplace⟩ := present_identities none shared .ephemeral
  have hids : ∀ p ∈ begun none plain, plain.id? p = none := by
    rw [hplain]
    simp only [List.forall_mem_cons]
    exact ⟨rfl, rfl, rfl, fun _ h => absurd h List.not_mem_nil⟩
  have hfirst : [.item 1] ∈ begun none shared := by rw [hnodes]; simp
  have hsecond : [.item 3] ∈ begun none shared := by rw [hnodes]; simp
  have hkey : shared.key [.item 1] = shared.key [.item 3] := by decide +kernel
  have hbound : (o.events.filterMap Event.bound?).map Prod.snd =
      ["column/1/checkbox", "column/3/checkbox"] := by decide +kernel
  refine ⟨hids, hnodup hids, hbound, hfirst, hsecond, hkey, ?_, ?_, ?_⟩
  · exact hkeys _ hfirst _ hsecond (by simp) hkey
  · exact (hreplace _ hsecond [.item 0] (checkbox []) (by simp)).2
  · refine (hcongr plain [.item 1] ?_ rfl).symm
    intro q hq
    rcases List.prefix_cons_iff.mp hq with rfl | ⟨rest, rfl, hrest⟩
    · rfl
    · obtain rfl := List.prefix_nil.mp hrest
      rfl

end ServerUi
