import ServerUi.Proofs.Builder.Fields
import ServerUi.Proofs.Render.Fresh
import ServerUi.Proofs.Render.Visited

/-! A value of a document that is replaced by another. Whatever stands in a slot, and whether it can
be rendered at all, everything around the slot stays as it is. -/

namespace ServerUi

/-- One step from a node down to a value in it that can be a node as well. -/
inductive Slot where
  | child
  | item (index : Nat)
  deriving DecidableEq

namespace Slot

def get? : Slot → Config → Option Json
  | child, config => config.lookup "child"
  | item i, config => (config.get "children").items[i]?

def set : Slot → Json → Config → Config
  | child, v, config => config.put "child" v
  | item i, v, config => config.put "children" (.arr ((config.get "children").items.set i v))

def segment : Slot → String
  | child => "child"
  | item i => toString i

/-- Whether nodes of a type have something rendered there. -/
def shownIn : Slot → String → Bool
  | child, tag => tag ∈ ["container", "center", "sizedBox", "card"]
  | item _, tag => tag ∈ ["column", "row", "listView"]

variable {slot : Slot} {config : Config} {u : Json}

theorem exists_items {i : Nat} (h : (item i).get? config = some u) :
    ∃ items, config.lookup "children" = some (.arr items) ∧ config.get "children" = .arr items ∧
      items[i]? = some u := by
  rw [get?, Config.get] at h
  rw [Config.get]
  rcases hv : config.lookup "children" with _ | v <;> rw [hv] at h
  · cases h
  · cases v with
    | arr items => exact ⟨items, rfl, rfl, h⟩
    | _ => cases h

theorem set_agree (h : slot.get? config = some u) (v : Json) :
    (slot.set v config).Agree config := by
  cases slot with
  | child =>
    refine ⟨fun key hchild _ => ?_, .inl ?_⟩
    · rw [set, Config.get_put, if_neg hchild]
    · rw [set, Config.get_put, if_neg (by decide)]
  | item i =>
    obtain ⟨items, -, hget, -⟩ := exists_items h
    refine ⟨fun key _ hchildren => ?_, .inr ⟨items.set i v, items, ?_, hget⟩⟩
    · rw [set, Config.get_put, if_neg hchildren]
    · rw [set, Config.get_put, if_pos rfl, hget]
      rfl

theorem set_self (h : slot.get? config = some u) : slot.set u config = config := by
  cases slot with
  | child => exact Config.put_self h
  | item i =>
    obtain ⟨items, hlookup, hget, hitem⟩ := exists_items h
    obtain ⟨hi, rfl⟩ := List.getElem?_eq_some_iff.mp hitem
    rw [set, hget, Json.items, List.set_getElem_self]
    exact Config.put_self hlookup

end Slot

namespace Json

def at? : Json → List Slot → Option Json
  | v, [] => some v
  | v, slot :: rest => (slot.get? v.config).bind fun u => u.at? rest

def replace : Json → List Slot → Json → Json
  | _, [], n => n
  | v, slot :: rest, n =>
    (slot.get? v.config).elim v fun u => .obj (slot.set (u.replace rest n) v.config)

/-- Whether every step of a position is one that is rendered. -/
def shows : Json → List Slot → Bool
  | _, [] => true
  | v, slot :: rest =>
    slot.shownIn v.config.tag && (slot.get? v.config).any fun u => u.shows rest

/-- The way on which a position is rendered. -/
def wayTo : Json → Path → List Slot → Path
  | _, path, [] => path
  | v, path, slot :: rest =>
    (slot.get? v.config).elim path fun u => u.wayTo (path ++ [v.config.tag] ++ [slot.segment]) rest

theorem replace_self {v old : Json} {p : List Slot} (h : v.at? p = some old) :
    v.replace p old = v := by
  induction p generalizing v with
  | nil => exact (Option.some.inj h).symm
  | cons slot rest ih =>
    obtain ⟨u, hu, hold⟩ := Option.bind_eq_some_iff.mp h
    rw [replace, hu, Option.elim_some, ih hold, Slot.set_self hu]
    cases v with
    | obj config => rfl
    | _ => cases slot <;> cases hu

end Json

/-- One level of a tree around a slot. -/
inductive Layer where
  | wrapper (w : Wrapper)
  | group (g : Group) (before after : List Widget)

namespace Layer

def around : Layer → Option Widget → Option Widget
  | wrapper w, c => some (.wrapper w c)
  | group g before after, c => some (.group g (before ++ c.toList ++ after))

def before : Layer → List String
  | wrapper _ => []
  | group _ before _ => before.flatMap Widget.errors

def after : Layer → List String
  | wrapper _ => []
  | group _ _ after => after.flatMap Widget.errors

end Layer

/-- A tree with something in its slot, given its levels from the root down. -/
def enclosed (layers : List Layer) (c : Option Widget) : Option Widget :=
  layers.foldr Layer.around c

theorem enclosed_append (layers more : List Layer) (c : Option Widget) :
    enclosed (layers ++ more) c = enclosed layers (enclosed more c) :=
  List.foldr_append

theorem enclosed_wrappers (inner : List Wrapper) (c : Option Widget) :
    enclosed (inner.map Layer.wrapper) c = nested inner c := by
  induction inner with
  | nil => rfl
  | cons w rest ih => exact congrArg (some <| Widget.wrapper w ·) ih

theorem errors_around (layer : Layer) (c : Option Widget) :
    (layer.around c).elim [] Widget.errors =
      layer.before ++ c.elim [] Widget.errors ++ layer.after := by
  cases layer with
  | wrapper w =>
    simp only [Layer.around, Option.elim_some, Widget.errors_wrapper, Layer.before, Layer.after,
      List.nil_append, List.append_nil]
  | group g before after =>
    simp only [Layer.around, Option.elim_some, Widget.errors_group, Layer.before, Layer.after,
      List.flatMap_append]
    cases c <;> simp

theorem errors_enclosed (layers : List Layer) (c : Option Widget) :
    (enclosed layers c).elim [] Widget.errors =
      layers.flatMap Layer.before ++ c.elim [] Widget.errors ++
        layers.reverse.flatMap Layer.after := by
  induction layers with
  | nil => exact (List.append_nil _).symm
  | cons layer rest ih =>
    rw [enclosed, List.foldr_cons, errors_around, ← enclosed, ih]
    simp [List.append_assoc]

/-- A node that is neither an error nor absent. -/
def Built (images : Option (ImageSource → Report Bool)) (v : Json) : Prop :=
  ∃ tag, fate images v = .built tag

section Step

variable {images : Option (ImageSource → Report Bool)} {config : Config} {slot : Slot} {u : Json}

theorem Built.exists_content {v : Json} (h : Built images v) :
    ∃ (config : Config) (tag : String) (form : Form) (c : Content),
      v = .obj config ∧ config.name? "type" = some tag ∧
      Form.ofTag? images tag config = some form ∧ form.content = .ok (some c) := by
  obtain ⟨built, h⟩ := h
  induction v using form_induction images with
  | refused v e hrefused => cases (fate_refused hrefused).symm.trans h
  | node config tag form htag hform _ _ =>
    rw [fate_form htag hform] at h
    rcases hc : form.content with fault | _ | c <;> rw [hc] at h
    · cases h
    · cases h
    · exact ⟨config, tag, form, c, rfl, htag, hform, hc⟩

theorem slotted_set {tag : String} {form : Form} {c : Content}
    (htag : config.name? "type" = some tag) (hform : Form.ofTag? images tag config = some form)
    (hc : form.content = .ok (some c)) (hu : slot.get? config = some u) (path : Path) (v : Json) :
    let host := Host.standard images
    let config' := slot.set v config
    host.slotted path (.obj config') =
      some (c.widget (identity config (path ++ [tag])) Seed.initial
        (host.slotted (path ++ [tag] ++ ["child"]) (config'.get "child"))
        (host.row (path ++ [tag]) 0 (config'.get "children").items)) := by
  intro host config'
  have hagree := slot.set_agree hu v
  have htag' : (slot.set v config).name? "type" = some tag := by
    rw [hagree.name?_eq (by decide) (by decide), htag]
  have hform' : Form.ofTag? images tag (slot.set v config) = some form := by
    rw [ofTag?_agree hagree, hform]
  change ((Host.standard images).render (.obj (slot.set v config)) path .ephemeral).value = _
  rw [render_fresh htag' hform', hc, hagree.identity_eq]
  rfl

/-- What stands in a slot that is shown has the rest of the widget around it. -/
theorem content_around {refuses : Bool} {tag : String} {c : Content} (hfits : c.Fits refuses tag)
    (hshown : slot.shownIn tag = true) (hu : slot.get? config = some u) (key : String)
    (value : Seed → Json) (childOf : Json → Option Widget) (itemsOf : List Json → List Widget)
    {P : Json → Prop} {slotted : Json → Option Widget}
    (hchild : slot = .child → ∀ v, P v → childOf v = slotted v)
    (hitems : ∀ i items, slot = .item i → config.get "children" = .arr items → items[i]? = some u →
      ∃ before after, ∀ v, P v → itemsOf (items.set i v) = before ++ (slotted v).toList ++ after) :
    ∃ layers, ∀ v, P v → some (c.widget key value (childOf ((slot.set v config).get "child"))
      (itemsOf ((slot.set v config).get "children").items)) = enclosed layers (slotted v) := by
  cases slot with
  | child =>
    obtain ⟨outer, inner, rfl⟩ := hfits.exists_wrapper (of_decide_eq_true hshown)
    refine ⟨(outer :: inner).map Layer.wrapper, fun v hv => ?_⟩
    rw [Content.widget, Slot.set, Config.get_put, if_pos rfl, enclosed_wrappers, hchild rfl v hv]
    rfl
  | item i =>
    obtain ⟨g, rfl⟩ := hfits.exists_group (of_decide_eq_true hshown)
    obtain ⟨items, -, hget, hitem⟩ := Slot.exists_items hu
    obtain ⟨before, after, hset⟩ := hitems i items rfl hget hitem
    refine ⟨[.group g before after], fun v hv => ?_⟩
    rw [Content.widget, Slot.set, Config.get_put, if_pos rfl, hget, Json.items, Json.items,
      hset v hv]
    rfl

/-- What stands in a slot that is not shown does not matter. -/
theorem content_hidden {refuses : Bool} {tag : String} {c : Content} (hfits : c.Fits refuses tag)
    (hhidden : slot.shownIn tag = false) (key : String) (value : Seed → Json)
    (childOf : Json → Option Widget) (itemsOf : List Json → List Widget) (v : Json) :
    c.widget key value (childOf ((slot.set v config).get "child"))
      (itemsOf ((slot.set v config).get "children").items) =
    c.widget key value (childOf (config.get "child")) (itemsOf (config.get "children").items) := by
  cases c with
  | still w => rfl
  | field label hint => rfl
  | input seed => rfl
  | wrapper outer inner =>
    cases slot with
    | child => exact absurd hfits.wrapper_mem (of_decide_eq_false hhidden)
    | item i =>
      simp only [Content.widget, Slot.set, Config.get_put, String.reduceEq, if_false]
  | group g =>
    cases slot with
    | child => simp only [Content.widget, Slot.set, Config.get_put, String.reduceEq, if_false]
    | item i => exact absurd hfits.group_mem (of_decide_eq_false hhidden)

theorem content_shown (host : Host) {refuses : Bool} {tag : String} {c : Content}
    (hfits : c.Fits refuses tag) (hshown : slot.shownIn tag = true)
    (hu : slot.get? config = some u) (key : String) (value : Seed → Json) (path : Path) :
    ∃ layers, ∀ v, some (c.widget key value
      (host.slotted (path ++ ["child"]) ((slot.set v config).get "child"))
      (host.row path 0 ((slot.set v config).get "children").items)) =
        enclosed layers (host.slotted (path ++ [slot.segment]) v) := by
  have hchild : slot = .child → ∀ v, True → host.slotted (path ++ ["child"]) v =
      host.slotted (path ++ [slot.segment]) v := by
    rintro rfl v -
    rfl
  have hitems : ∀ i items, slot = .item i → config.get "children" = .arr items →
      items[i]? = some u → ∃ before after, ∀ v, True → host.row path 0 (items.set i v) =
        before ++ (host.slotted (path ++ [slot.segment]) v).toList ++ after := by
    rintro i items rfl - hitem
    obtain ⟨hi, -⟩ := List.getElem?_eq_some_iff.mp hitem
    exact ⟨_, _, fun v _ => row_set host path hi v⟩
  obtain ⟨layers, hlayers⟩ := content_around hfits hshown hu key value _ _ hchild hitems
  exact ⟨layers, fun v => hlayers v trivial⟩

end Step

section Position

variable {images : Option (ImageSource → Report Bool)}

/-- Every node that a position goes through is built. -/
def Open (images : Option (ImageSource → Report Bool)) : Json → List Slot → Prop
  | _, [] => True
  | v, slot :: rest =>
    Built images v ∧ ∀ u, slot.get? v.config = some u → Open images u rest

theorem open_of_prefixes {v : Json} {p : List Slot}
    (h : ∀ q, q <+: p → q ≠ p → ∀ u, v.at? q = some u → Built images u) : Open images v p := by
  induction p generalizing v with
  | nil => trivial
  | cons slot rest ih =>
    refine ⟨h [] List.nil_prefix (by simp) v rfl, fun u hu => ih fun q hq hne w hw => ?_⟩
    refine h (slot :: q) (List.prefix_cons_iff.mpr (.inr ⟨q, rfl, hq⟩)) (by simpa using hne) w ?_
    rw [Json.at?, hu]
    exact hw

theorem replace_cons {slot : Slot} {config : Config} {u : Json} (hu : slot.get? config = some u)
    (rest : List Slot) (n : Json) :
    (Json.obj config).replace (slot :: rest) n = .obj (slot.set (u.replace rest n) config) := by
  rw [Json.replace, Json.config, hu, Option.elim_some]

theorem shows_cons {slot : Slot} {config : Config} {u : Json} {tag : String}
    (hu : slot.get? config = some u) (htag : config.name? "type" = some tag) (rest : List Slot) :
    (Json.obj config).shows (slot :: rest) = (slot.shownIn tag && u.shows rest) := by
  rw [Json.shows, Json.config, Config.tag_eq htag, hu, Option.any_some]

theorem wayTo_cons {slot : Slot} {config : Config} {u : Json} {tag : String}
    (hu : slot.get? config = some u) (htag : config.name? "type" = some tag) (rest : List Slot)
    (path : Path) :
    (Json.obj config).wayTo path (slot :: rest) =
      u.wayTo (path ++ [tag] ++ [slot.segment]) rest := by
  rw [Json.wayTo, Json.config, Config.tag_eq htag, hu, Option.elim_some]

/-- The tree around a position that is shown does not hang on what stands there. -/
theorem slotted_replace {v old : Json} {p : List Slot} (hopen : Open images v p)
    (hold : v.at? p = some old) (hshown : v.shows p = true) (path : Path) :
    ∃ layers, ∀ n, (Host.standard images).slotted path (v.replace p n) =
      enclosed layers ((Host.standard images).slotted (v.wayTo path p) n) := by
  induction p generalizing v path with
  | nil => exact ⟨[], fun n => rfl⟩
  | cons slot rest ih =>
    obtain ⟨hbuilt, hrest⟩ := hopen
    obtain ⟨config, tag, form, c, rfl, htag, hform, hc⟩ := hbuilt.exists_content
    obtain ⟨u, hget, hold⟩ := Option.bind_eq_some_iff.mp hold
    have hu : slot.get? config = some u := hget
    rw [shows_cons hu htag, Bool.and_eq_true] at hshown
    obtain ⟨outer, houter⟩ := content_shown (Host.standard images)
      (ofTag?_fits hform c hc) hshown.1 hu (identity config (path ++ [tag])) Seed.initial
      (path ++ [tag])
    obtain ⟨inner, hinner⟩ := ih (hrest u hu) hold hshown.2 (path ++ [tag] ++ [slot.segment])
    -- The levels of the node in hand do not hang on what the rest of the position leads to.
    refine ⟨outer ++ inner, fun n => ?_⟩
    rw [replace_cons hu, slotted_set htag hform hc hu, houter, hinner, enclosed_append,
      wayTo_cons hu htag]

theorem slotted_replace_hidden {v old : Json} {p : List Slot} (hopen : Open images v p)
    (hold : v.at? p = some old) (hhidden : v.shows p = false) (path : Path) (n : Json) :
    (Host.standard images).slotted path (v.replace p n) =
      (Host.standard images).slotted path v := by
  induction p generalizing v path with
  | nil => cases hhidden
  | cons slot rest ih =>
    obtain ⟨hbuilt, hrest⟩ := hopen
    obtain ⟨config, tag, form, c, rfl, htag, hform, hc⟩ := hbuilt.exists_content
    obtain ⟨u, hget, hold⟩ := Option.bind_eq_some_iff.mp hold
    have hu : slot.get? config = some u := hget
    have hfits := ofTag?_fits hform c hc
    have hself := slotted_set htag hform hc hu path u
    rw [Slot.set_self hu] at hself
    rw [replace_cons hu, slotted_set htag hform hc hu, hself]
    rw [shows_cons hu htag, Bool.and_eq_false_iff] at hhidden
    rcases hhidden with hslot | hsub
    · rw [content_hidden hfits hslot]
    · by_cases hslot : slot.shownIn tag = true
      · obtain ⟨outer, houter⟩ := content_shown (Host.standard images) hfits hslot hu
          (identity config (path ++ [tag])) Seed.initial (path ++ [tag])
        have hu' := houter u
        rw [Slot.set_self hu] at hu'
        rw [houter, hu', ih (hrest u hu) hold hsub]
      · rw [content_hidden hfits (Bool.eq_false_iff.mpr hslot)]

end Position

/-- What rendering a value alone yields in a slot: nothing if it is no object. -/
def Host.alone (host : Host) (v : Json) : Rendering :=
  if v.isObject then (host.present v .ephemeral).value else ⟨none, []⟩

theorem slotted_alone {images : Option (ImageSource → Report Bool)} (path : Path) (v : Json) :
    ((Host.standard images).slotted path v).map Widget.unnamed =
      ((Host.standard images).alone v).widget.map Widget.unnamed := by
  rw [Host.slotted, Host.alone]
  split
  · rw [Host.present_value]
    exact placeless v path []
  · rfl

theorem errors_alone {images : Option (ImageSource → Report Bool)} (path : Path) (v : Json) :
    ((Host.standard images).slotted path v).elim [] Widget.errors =
      ((Host.standard images).alone v).errors := by
  have herrors (w : Option Widget) :
      w.elim [] Widget.errors = (w.map Widget.unnamed).elim [] Widget.errors := by
    cases w with
    | none => rfl
    | some w => exact (Widget.errors_unnamed w).symm
  have halone : ((Host.standard images).alone v).errors =
      ((Host.standard images).alone v).widget.elim [] Widget.errors := by
    rw [Host.alone]
    split
    · rw [Host.present_value]
    · rfl
  rw [herrors, slotted_alone, ← herrors, halone]

theorem present_object (host : Host) {v : Json} (h : v.isObject = true) :
    (host.present v .ephemeral).value =
      ⟨host.slotted [] v, (host.slotted [] v).elim [] Widget.errors⟩ := by
  rw [Host.present_value, Host.slotted, if_pos h]

/-- Any value put at a position of a document whose ancestors are built. If the position is shown,
the tree is the same around it and has in its place what the value alone comes to, and the errors
are the same around those of the value. Else nothing changes. -/
theorem present_replace (images : Option (ImageSource → Report Bool)) (document : Json)
    {p : List Slot} (hp : p ≠ []) {old : Json} (hold : document.at? p = some old)
    (hbuilt : ∀ q, q <+: p → q ≠ p → ∀ u, document.at? q = some u → Built images u) :
    let host := Host.standard images
    let way := document.wayTo [] p
    let shown (v : Json) := (host.present v .ephemeral).value
    document.replace p old = document ∧
    (∀ n, (host.slotted way n).map Widget.unnamed = (host.alone n).widget.map Widget.unnamed) ∧
    if document.shows p then
      ∃ layers before after, ∀ n, shown (document.replace p n) =
        ⟨enclosed layers (host.slotted way n), before ++ (host.alone n).errors ++ after⟩
    else ∀ n, shown (document.replace p n) = shown document := by
  intro host way shown
  have hopen := open_of_prefixes hbuilt
  have hobject : document.isObject = true ∧ ∀ n, (document.replace p n).isObject = true := by
    obtain ⟨slot, rest, rfl⟩ := List.exists_cons_of_ne_nil hp
    obtain ⟨config, tag, form, c, rfl, -, -, -⟩ := hopen.1.exists_content
    obtain ⟨u, hu, -⟩ := Option.bind_eq_some_iff.mp hold
    exact ⟨rfl, fun n => replace_cons hu rest n ▸ rfl⟩
  refine ⟨Json.replace_self hold, slotted_alone way, ?_⟩
  split
  · next hshown =>
    obtain ⟨layers, hlayers⟩ := slotted_replace hopen hold hshown []
    refine ⟨layers, layers.flatMap Layer.before, layers.reverse.flatMap Layer.after, fun n => ?_⟩
    have hn := present_object host (hobject.2 n)
    rw [hlayers, errors_enclosed, errors_alone] at hn
    exact hn
  · next hhidden =>
    intro n
    have hsame := slotted_replace_hidden hopen hold (Bool.eq_false_iff.mpr hhidden) [] n
    have hn := present_object host (hobject.2 n)
    rw [hsame, ← present_object host hobject.1] at hn
    exact hn

theorem present_replace_nested :
    let text (s : String) := Json.obj [("type", .str "text"), ("text", .str s)]
    let column := Json.obj [("type", .str "column"), ("children", .arr [text "a", text "b"])]
    let document := Json.obj [("type", .str "container"), ("child", column)]
    let host := Host.standard none
    ∃ layers before after, ∀ n,
      (host.present (document.replace [.child, .item 1] n) .ephemeral).value =
        ⟨enclosed layers (host.slotted ["container", "child", "column", "1"] n),
          before ++ (host.alone n).errors ++ after⟩ := by
  intro text column document host
  have hbuilt : ∀ q, q <+: [Slot.child, .item 1] → q ≠ [.child, .item 1] →
      ∀ u, document.at? q = some u → Built none u := by
    intro q hq hne u hu
    rcases List.prefix_cons_iff.mp hq with rfl | ⟨rest, rfl, hrest⟩
    · obtain rfl := Option.some.inj hu
      exact ⟨"container", rfl⟩
    · rcases List.prefix_cons_iff.mp hrest with rfl | ⟨rest, rfl, hnil⟩
      · obtain rfl := Option.some.inj hu
        exact ⟨"column", rfl⟩
      · obtain rfl := List.prefix_nil.mp hnil
        exact absurd rfl hne
  have hold : document.at? [.child, .item 1] = some (text "b") := rfl
  exact (present_replace none document (List.cons_ne_nil _ _) hold hbuilt).2.2

end ServerUi
