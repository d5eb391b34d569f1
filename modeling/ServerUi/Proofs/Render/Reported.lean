import ServerUi.Proofs.Builder.Records
import ServerUi.Proofs.Render.Failures

/-! Every error that is shown has been reported. Nodes are reported in the order in which their
builders end, and errors are collected by a walk through what is left of the tree. -/

namespace ServerUi

/-- What is reported of a node that cannot be built. -/
def Event.refusal? : Event → Option String
  | note (.node e key) => some (Notice.node e key).text
  | _ => none

theorem refusal?_note {n : Notice} (h : n.ofRendering = false) :
    Event.refusal? (.note n) = none := by
  cases n with
  | node e key => cases h
  | _ => rfl

theorem text_warnings (events : List Event) :
    ((events.filterMap Event.notice?).filter fun n => n.ofRendering ∧ n.level = .warning).map
      Notice.text = events.filterMap Event.refusal? := by
  induction events with
  | nil => rfl
  | cons event rest ih =>
    cases event with
    | note n =>
      cases n with
      | node e key => exact congrArg ((Notice.node e key).text :: ·) ih
      | _ => exact ih
    | _ => exact ih

/-- What is reported of a failure if the document is rendered at a path. -/
def Failure.report (v : Json) (path : Path) (n : Failure) : String :=
  (Notice.node n.error (v.named path n.position).2).text

theorem errors_nested (inner : List Wrapper) (child : Option Widget) :
    (nested inner child).elim [] Widget.errors = child.toList.flatMap Widget.errors := by
  induction inner with
  | nil => cases child <;> simp [nested]
  | cons w rest ih => rw [nested, Option.elim_some, Widget.errors_wrapper, ih]

/-- A content adds no error to those of the parts that are shown in it. -/
theorem errors_parts {refuses : Bool} {tag : String} {c : Content} (h : c.Fits refuses tag)
    (key : String) (value : Seed → Json) (child : Option Widget) (items : List Widget) :
    (c.widget key value child items).errors =
      (partsShown c.reach child items).flatMap Widget.errors := by
  cases c with
  | still w =>
    have htag : tag ∈ ["text", "richText", "button", "icon", "divider", "image", "textField",
        "checkbox", "dropdown"] := by simpa using h.leaf_mem
    have hslots : slotWidgets tag child items = [] := by
      simp only [List.mem_cons, List.not_mem_nil, or_false] at htag
      rcases htag with rfl | rfl | rfl | rfl | rfl | rfl | rfl | rfl | rfl <;> rfl
    rw [errors_content h, hslots]
    rfl
  | field label hint => rfl
  | input seed => cases seed <;> rfl
  | wrapper outer inner => rw [Content.widget, Widget.errors_wrapper, errors_nested]; rfl
  | group g => exact Widget.errors_group g items

/-- The failures of parts that are rendered at a path, one part after the other, are reported in
their order. Those that stand below no other in their part are shown. -/
structure Reports (images : Option (ImageSource → Report Bool)) (path : Path)
    (parts : List (Slot × Json)) (ws : List Widget) (events : List Event) : Prop where
  reported : events.filterMap Event.refusal? = parts.flatMap fun part =>
    (failedNodes images part.2).map (Failure.report part.2 (path ++ [part.1.segment]))
  shown : ws.flatMap Widget.errors = parts.flatMap fun part =>
    (topmost (failedNodes images part.2)).map fun n => n.error.message

theorem Reports.append {images : Option (ImageSource → Report Bool)} {path : Path}
    {parts others : List (Slot × Json)} {ws vs : List Widget} {events more : List Event}
    (h : Reports images path parts ws events) (hmore : Reports images path others vs more) :
    Reports images path (parts ++ others) (ws ++ vs) (events ++ more) := by
  constructor
  · rw [List.filterMap_append, List.flatMap_append, h.reported, hmore.reported]
  · rw [List.flatMap_append, List.flatMap_append, h.shown, hmore.shown]

/-- Likewise for a value that is rendered alone. -/
def Reported (images : Option (ImageSource → Report Bool)) (v : Json) : Prop :=
  ∀ path s,
    let o := (Host.standard images).render v path s
    o.events.filterMap Event.refusal? = (failedNodes images v).map (Failure.report v path) ∧
    o.value.elim [] Widget.errors = (topmost (failedNodes images v)).map fun n => n.error.message

section Reported

variable {images : Option (ImageSource → Report Bool)} {config : Config}

theorem reported_refused {v : Json} {e : NodeError} (h : Refused images v e) :
    Reported images v := by
  intro path s
  have htext (key key' : String) : (Notice.node e key).text = (Notice.node e key').text := by
    cases h <;> rfl
  have htop : topmost ([] ++ [⟨[], e⟩]) = [⟨[], e⟩] :=
    topmost_root (fun _ hn => absurd hn List.not_mem_nil) e
  rw [List.nil_append] at htop
  rw [render_refused h, failedNodes_refused h, htop]
  exact ⟨congrArg (· :: []) (htext _ _), rfl⟩

theorem reports_part {v : Json} (h : Reported images v) (slot : Slot) (path : Path) (s : Store) :
    let o := (Host.standard images).render v (path ++ [slot.segment]) s
    Reports images path [(slot, v)] o.value.toList o.events := by
  intro o
  obtain ⟨hreported, hshown⟩ := h (path ++ [slot.segment]) s
  refine ⟨?_, ?_⟩
  · rw [List.flatMap_singleton]
    exact hreported
  · rw [List.flatMap_singleton, ← hshown]
    cases o.value <;> simp

theorem reports_child {v : Json} (h : Reported images v) (path : Path) (s : Store) :
    let o := (Host.standard images).renderChild v path s
    Reports images path ([(.child, v)].filter fun part => part.2.isObject) o.value.toList
      o.events := by
  cases v with
  | obj config => exact reports_part h .child path s
  | _ => exact ⟨rfl, rfl⟩

theorem reports_items {items : List Json} (h : ∀ v ∈ items, Reported images v) (i : Nat)
    (path : Path) (s : Store) :
    let o := (Host.standard images).renderItems i items path s
    Reports images path ((slotted i items).filter fun part => part.2.isObject) o.value
      o.events := by
  induction items generalizing i s with
  | nil => exact ⟨rfl, rfl⟩
  | cons v rest ih =>
    have hrest := ih (fun u hu => h u (List.mem_cons_of_mem v hu)) (i + 1)
    have hslotted : slotted i (v :: rest) = (.item i, v) :: slotted (i + 1) rest := rfl
    rw [hslotted, List.filter_cons]
    cases hv : v.isObject with
    | true =>
      have hfirst := reports_part (h v List.mem_cons_self) (.item i) path s
      rw [Host.renderItems_object _ hv, if_pos rfl]
      exact hfirst.append (hrest _)
    | false =>
      rw [Host.renderItems_skipped _ hv, if_neg Bool.false_ne_true]
      obtain ⟨hreported, hshown⟩ := hrest s
      exact ⟨hreported, hshown⟩

/-- What is reported below a node is what the form passes on. -/
theorem reports_parts {form : Form} (hplain : form.Plain)
    (hget : Reported images (config.get "child"))
    (hitem : ∀ v ∈ (config.get "children").items, Reported images v) (path : Path) (s : Store) :
    let child := (Host.standard images).renderChild (config.get "child")
    let items := (Host.standard images).renderItems 0 (config.get "children").items
    Reports images path (form.reach.parts config)
      (partsShown form.reach (child path s).value (items path s).value)
      (form.pass (identity config) child items path s).events := by
  intro child items
  have hevents := form.pass_seen (identity config) child items path s
    (fun n hn => refusal?_note (hplain.own n hn)) (written_unseen (fun _ _ => rfl) fun _ _ => rfl)
  cases hr : form.reach with
  | nothing =>
    rw [hr] at hevents
    exact ⟨hevents, rfl⟩
  | seed seed =>
    rw [hr] at hevents
    exact ⟨hevents, rfl⟩
  | child =>
    rw [hr] at hevents
    obtain ⟨hreported, hshown⟩ := reports_child hget path s
    exact ⟨hevents.trans hreported, hshown⟩
  | items =>
    rw [hr] at hevents
    obtain ⟨hreported, hshown⟩ := reports_items hitem 0 path s
    exact ⟨hevents.trans hreported, hshown⟩

theorem report_failedIn {tag : String} (htag : config.name? "type" = some tag)
    {parts : List (Slot × Json)} (hparts : ∀ part ∈ parts, part.1.get? config = some part.2)
    (path : Path) :
    (failedIn images parts).map (Failure.report (.obj config) path) =
      parts.flatMap fun part =>
        (failedNodes images part.2).map
          (Failure.report part.2 (path ++ [tag] ++ [part.1.segment])) := by
  rw [failedIn, List.map_flatMap]
  refine List.flatMap_congr fun part hpart => ?_
  have hslot : part.1.value config = part.2 := Slot.value_of_get? (hparts part hpart)
  rw [List.map_map]
  refine List.map_congr_left fun n _ => ?_
  rw [Function.comp_apply, Failure.report, Failure.report, Failure.below, Json.named_cons,
    Json.config, hslot, Config.tag_eq htag]

theorem contained_refusals (path path' : Path) (key : Path → String) (k : String)
    (events : List Event) (outcome : Except Fault (Option Widget)) :
    (.built path k :: events ++ lastEvents path' key outcome).filterMap Event.refusal? =
      events.filterMap Event.refusal? ++
        match outcome with
        | .ok _ => []
        | .error fault => [(Notice.node (.failed fault) (key path')).text] := by
  rw [List.cons_append, List.filterMap_cons_none rfl, List.filterMap_append]
  cases outcome <;> rfl

theorem reported_form {tag : String} {form : Form} (htag : config.name? "type" = some tag)
    (hform : Form.ofTag? images tag config = some form) (hplain : form.Plain)
    (hget : Reported images (config.get "child"))
    (hitem : ∀ v ∈ (config.get "children").items, Reported images v) :
    Reported images (.obj config) := by
  intro path s
  let here := path ++ [tag]
  let key := identity config here
  let child := (Host.standard images).renderChild (config.get "child")
  let items := (Host.standard images).renderItems 0 (config.get "children").items
  let o := form.pass (identity config) child items here s
  let parts := form.reach.parts config
  have hvalue : o.value = _ := (form.pass_run (identity config) child items here s).1
  have hpath : o.path = here := (pass_steady hform).path_eq here s
  have hparts : ∀ part ∈ parts, part.1.get? config = some part.2 :=
    fun part hpart => get?_of_mem_parts hpart
  obtain ⟨hreported, hshown⟩ := reports_parts hplain hget hitem here s
  change o.events.filterMap Event.refusal? = _ at hreported
  rw [← report_failedIn htag hparts] at hreported
  rw [render_form htag hform, contained_run, failedNodes_form htag hform]
  change (.built here key :: o.events ++ lastEvents o.path (identity config) o.value).filterMap
      Event.refusal? = _ ∧ (inPlace o.value).elim [] Widget.errors = _
  rw [contained_refusals, hreported, hpath, hvalue, List.map_append]
  rcases hc : form.content with fault | _ | c
  · have hbelow : ∀ n ∈ failedIn images parts, n.position ≠ [] := fun n hn => position_ne_nil hn
    have hroot := topmost_root hbelow (.failed fault)
    have hself : (Json.obj config).named path [] = (here, key) := by
      rw [Json.named, Json.trail, Json.config, Config.tag_eq htag]
      rfl
    refine ⟨?_, ?_⟩
    · rw [List.map_singleton, Failure.report, hself]
      rfl
    · rw [hroot]
      rfl
  · have hnone : failedIn images parts = [] := by
      simp only [parts, Form.reach_of_absent hc]
      rfl
    rw [hnone]
    exact ⟨rfl, rfl⟩
  · have hfits := ofTag?_fits hform c hc
    have herrors := errors_parts hfits key (s.held key) (child here s).value (items here s).value
    rw [← Form.reach_of_content hc, hshown,
      ← messages_failedIn (nodup_parts form.reach config)] at herrors
    rw [List.append_nil]
    exact ⟨rfl, herrors⟩

theorem reported (himages : ∀ loader ∈ images, ∀ source, (loader source).Plain) (v : Json) :
    Reported images v := by
  induction v using form_induction images with
  | refused v e h => exact reported_refused h
  | node config tag form htag hform hget hitem =>
    exact reported_form htag hform (ofTag?_plain himages hform) hget hitem

/-- A node that cannot be built is shown as an error wherever it is rendered. -/
theorem render_failed {v : Json} {e : NodeError} (h : fate images v = .error e) (path : Path)
    (s : Store) :
    ((Host.standard images).render v path s).value = some (.error e.message) := by
  cases v using form_induction images with
  | refused v e' hrefused =>
    obtain rfl := Fate.error.inj ((fate_refused hrefused).symm.trans h)
    rw [render_refused hrefused]
    rfl
  | node config tag form htag hform hget hitem =>
    rw [fate_form htag hform] at h
    rw [render_value htag hform]
    rcases hc : form.content with fault | _ | c <;> rw [hc] at h <;> cases h
    rfl

end Reported

/-- What is shown of a node that cannot be built, and what is reported of it. -/
inductive Tells (key : String) : String → String → Prop where
  | malformed (found : String) :
      Tells key s!"malformed node config: expected object, got {found}"
        s!"malformed node config: expected object, got {found}"
  | missingType : Tells key "missing type field" "Widget config missing type field"
  | unknownType (tag : String) :
      Tells key s!"unknown widget type: {tag}" s!"Unknown widget type: {tag}"
  | failed (details : String) :
      Tells key s!"parse error: {details}" s!"Error parsing widget {key}: {details}"

theorem tells_node (e : NodeError) (key : String) :
    Tells key e.message (Notice.node e key).text := by
  cases e with
  | malformed node => exact .malformed node.typeName
  | missingType => exact .missingType
  | unknownType tag => exact .unknownType tag
  | failed fault => exact .failed fault.details

/-- While a document is rendered, the warnings that rendering itself writes are those about the
nodes that cannot be built, one for each, in order. The errors are the messages of those among them
that stand below no other, in the same order. Any other one stands below one that is shown. Each
message goes with its warning as `Tells` has it, and the node is an error wherever it is rendered. -/
theorem present_reported (images : Option (ImageSource → Report Bool))
    (himages : ∀ loader ∈ images, ∀ source, (loader source).Plain) (document : Json) (s : Store) :
    let o := (Host.standard images).present document s
    let warnings := (o.events.filterMap Event.notice?).filter fun n =>
      n.ofRendering ∧ n.level = .warning
    let nodes := failedNodes images document
    let shown := topmost nodes
    let text (n : Failure) := (Notice.node n.error (document.key n.position)).text
    warnings.map Notice.text = nodes.map text ∧
    o.value.errors = shown.map (fun n => n.error.message) ∧
    shown.Sublist nodes ∧
    (nodes.map Failure.position).Nodup ∧
    (∀ n ∈ nodes, n ∉ shown →
      ∃ m ∈ shown, m.position <+: n.position ∧ m.position ≠ n.position) ∧
    ∀ n ∈ nodes, Tells (document.key n.position) n.error.message (text n) ∧
      ∃ v, document.at? n.position = some v ∧ ∀ path s,
        ((Host.standard images).render v path s).value = some (.error n.error.message) := by
  intro o warnings nodes shown text
  obtain ⟨hreported, hshown⟩ := reported himages document [] s
  refine ⟨?_, ?_, topmost_sublist nodes, nodup_positions document, ?_, ?_⟩
  · rw [text_warnings, present_seen rfl (fun _ => rfl), hreported]
    rfl
  · simp only [o, Host.present_value]
    exact hshown
  · exact fun n hn hhidden => exists_topmost_above hn hhidden
  · intro n hn
    obtain ⟨v, hv, hfate⟩ := fate_of_mem_failedNodes hn
    exact ⟨tells_node _ _, v, hv, render_failed hfate⟩

/-- Of three nodes that cannot be built, one is below a container that fails behind its child. The
image is refused, which is no failure of its node. -/
theorem present_reported_below :
    let folder : AssetFolder := ⟨⟨.directory [], [], .usual⟩, ["assets"]⟩
    let wide := Json.obj [("type", .str "container"), ("id", .str "box"),
      ("width", .int (.ofNat (tenPower 309))), ("child", .obj [])]
    let image := Json.obj [("type", .str "image"), ("url", .str "logo.png")]
    let document := Json.obj [("type", .str "row"),
      ("children", .arr [wide, image, .obj [("type", .str "gauge")]])]
    let nodes := failedNodes (some folder.loader) document
    (∀ loader ∈ some folder.loader, ∀ source, (loader source).Plain) ∧
    nodes.map (fun n => (Notice.node n.error (document.key n.position)).text) =
      ["Widget config missing type field",
        "Error parsing widget box: int too large to convert to float",
        "Unknown widget type: gauge"] ∧
    (topmost nodes).map (fun n => n.error.message) =
      ["parse error: int too large to convert to float", "unknown widget type: gauge"] ∧
    ∀ n ∈ nodes, n ∉ topmost nodes →
      ∃ m ∈ topmost nodes, m.position <+: n.position ∧ m.position ≠ n.position := by
  intro folder wide image document nodes
  have himages : ∀ loader ∈ some folder.loader, ∀ source, (loader source).Plain := by
    rintro loader ⟨⟩
    exact folder.loader_plain
  obtain ⟨hwarnings, herrors, -, -, hbelow, -⟩ :=
    present_reported (some folder.loader) himages document .ephemeral
  refine ⟨himages, hwarnings.symm.trans ?_, herrors.symm.trans ?_, hbelow⟩
  · decide +kernel
  · decide +kernel

end ServerUi
