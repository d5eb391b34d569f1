import ServerUi.Proofs.Builder.Standard
import ServerUi.Proofs.Render.Steady

/-! How the standard builders render an object: the parts that its node can have are the value under
`child` and the items under `children`, and its form tells what becomes of them. -/

namespace ServerUi

/-- The type of a node, empty if it has none. -/
def Config.tag (config : Config) : String := (config.name? "type").getD ""

theorem Config.tag_eq {config : Config} {tag : String} (h : config.name? "type" = some tag) :
    config.tag = tag := by
  rw [Config.tag, h, Option.getD_some]

namespace Json

def items : Json → List Json
  | arr items => items
  | _ => []

def isObject : Json → Bool
  | obj _ => true
  | _ => false

theorem sizeOf_get_lt (config : Config) (key : String) :
    sizeOf (config.get key) < sizeOf (obj config) := by
  rw [Config.get]
  cases h : config.lookup key with
  | none =>
    change 1 < sizeOf (obj config)
    cases config <;> simp only [obj.sizeOf_spec, List.nil.sizeOf_spec, List.cons.sizeOf_spec] <;>
      omega
  | some v =>
    have hm := List.sizeOf_lt_of_mem (mem_of_lookup h)
    simp only [Prod.mk.sizeOf_spec] at hm
    simp only [Option.getD_some, obj.sizeOf_spec]
    omega

theorem sizeOf_item_lt {u v : Json} (h : u ∈ v.items) : sizeOf u < sizeOf v := by
  cases v with
  | arr items =>
    have hm := List.sizeOf_lt_of_mem (show u ∈ items from h)
    simp only [arr.sizeOf_spec]
    omega
  | _ => exact absurd h List.not_mem_nil

/-- Induction on a document: an object is reached from its fields and from the items in them. -/
theorem document_induction {motive : Json → Prop}
    (plain : ∀ v, v.isObject = false → motive v)
    (node : ∀ config : Config, (∀ key, motive (config.get key)) →
      (∀ key, ∀ v ∈ (config.get key).items, motive v) → motive (.obj config))
    (v : Json) : motive v := by
  -- The items of a field are two levels below their object, so the size is what gets smaller.
  induction h : sizeOf v using Nat.strongRecOn generalizing v with
  | ind n ih =>
    subst h
    cases v with
    | obj config =>
      have hget := sizeOf_get_lt config
      exact node config (fun key => ih _ (hget key) _ rfl) fun key v hv =>
        ih _ (Nat.lt_trans (sizeOf_item_lt hv) (hget key)) _ rfl
    | _ => exact plain _ rfl

end Json

section Parts

variable (host : Host)

theorem partedItems_eq (items : List Json) : partedItems host items = items.map (parted host) := by
  induction items with
  | nil => rfl
  | cons v rest ih => exact congrArg (parted host v :: ·) ih

theorem parted_items (v : Json) : (parted host v).items = v.items.map (parted host) := by
  cases v with
  | arr items => exact partedItems_eq host items
  | _ => rfl

theorem lookup_partedMembers (config : Config) (key : String) :
    (partedMembers host config).lookup key = (config.lookup key).map (parted host) := by
  induction config with
  | nil => rfl
  | cons m rest ih =>
    obtain ⟨k, v⟩ := m
    simp only [partedMembers, List.lookup_cons]
    split <;> simp_all

/-- How the value under `child` of a node is rendered; null is none. -/
def Host.renderChild : Json → Pass (Option Widget)
  | .null => pure none
  | .obj config => Pass.under "child" (host.render (.obj config))
  | v => do
    Pass.emit [.note (.childIgnored "child" v)]
    return none

def Host.renderItems (i : Nat) (items : List Json) : Pass (List Widget) :=
  ServerUi.renderItems i (items.map (parted host))

theorem renderMember_nodePart (config : Config) :
    renderMember (host.nodePart config) "child" = host.renderChild (config.get "child") := by
  simp only [renderMember, Host.nodePart, Part.members, lookup_partedMembers, Config.get]
  cases config.lookup "child" with
  | none => rfl
  | some v => cases v <;> rfl

theorem childParts_nodePart (config : Config) :
    childParts (host.nodePart config) = (config.get "children").items.map (parted host) := by
  simp only [childParts, Host.nodePart, Part.at?, Part.members, lookup_partedMembers, Config.get]
  cases config.lookup "children" with
  | none => rfl
  | some v => exact parted_items host v

theorem Host.renderItems_cons (i : Nat) (v : Json) (rest : List Json) :
    host.renderItems i (v :: rest) =
      if v.isObject then
        Pass.under (toString i) (host.render v) >>= fun w =>
          host.renderItems (i + 1) rest >>= fun ws => pure (w.toList ++ ws)
      else Pass.emit [.note (.childSkipped i v)] >>= fun _ => host.renderItems (i + 1) rest := by
  cases v <;> rfl

/-- The outcome of an item together with that of the later ones. -/
def Outcome.before (first : Outcome (Option Widget)) (later : Outcome (List Widget)) :
    Outcome (List Widget) :=
  ⟨first.value.toList ++ later.value, later.path, later.store, first.events ++ later.events⟩

def Outcome.behind (event : Event) (o : Outcome α) : Outcome α :=
  { o with events := event :: o.events }

/-- The items behind an object go on from its store. -/
theorem Host.renderItems_object {v : Json} (hv : v.isObject = true) (i : Nat) (rest : List Json)
    (path : Path) (s : Store) :
    host.renderItems i (v :: rest) path s =
      (host.render v (path ++ [toString i]) s).before
        (host.renderItems (i + 1) rest path (host.render v (path ++ [toString i]) s).store) := by
  have hsteady := ((host.render_steady v).under (toString i)).path_eq path s
  rw [host.renderItems_cons, if_pos hv]
  simp only [Pass.bind_run, Pass.pure_run, hsteady]
  simp only [Pass.under_run, List.append_nil]
  rfl

theorem Host.renderItems_skipped {v : Json} (hv : v.isObject = false) (i : Nat)
    (rest : List Json) (path : Path) (s : Store) :
    host.renderItems i (v :: rest) path s =
      (host.renderItems (i + 1) rest path s).behind (.note (.childSkipped i v)) := by
  rw [host.renderItems_cons, if_neg (Bool.eq_false_iff.mp hv)]
  rfl

variable {Q : Widget → Prop}

/-- The child has every property that its value is rendered with, wherever it stands. -/
theorem Host.renderChild_forall {v : Json} (h : ∀ path s, ∀ w ∈ (host.render v path s).value, Q w)
    (path : Path) (s : Store) : ∀ w ∈ (host.renderChild v path s).value, Q w := by
  cases v with
  | obj config => exact h (path ++ ["child"]) s
  | _ => exact fun w hw => nomatch hw

theorem Host.renderItems_forall {items : List Json}
    (h : ∀ v ∈ items, ∀ path s, ∀ w ∈ (host.render v path s).value, Q w) (i : Nat) (path : Path)
    (s : Store) : ∀ w ∈ (host.renderItems i items path s).value, Q w := by
  induction items generalizing i path s with
  | nil => exact fun w hw => absurd hw List.not_mem_nil
  | cons v rest ih =>
    obtain ⟨hv, hrest⟩ := List.forall_mem_cons.mp h
    intro w hw
    cases hobject : v.isObject with
    | true =>
      rw [host.renderItems_object hobject] at hw
      rcases List.mem_append.mp hw with hfirst | hlater
      · exact hv _ _ w (Option.mem_toList.mp hfirst)
      · exact ih hrest _ _ _ w hlater
    | false =>
      rw [host.renderItems_skipped hobject] at hw
      exact ih hrest _ _ _ w hw

end Parts

def Host.standard (images : Option (ImageSource → Report Bool)) : Host := ⟨.standard, images⟩

/-- A fault and nothing to show do not hang on what a content would be shown as. -/
theorem map_inPlace_congr {f : Widget → β} {g g' : Content → Widget} (h : ∀ c, f (g c) = f (g' c))
    (content : Except Fault (Option Content)) :
    (inPlace (Option.map g <$> content)).map f = (inPlace (Option.map g' <$> content)).map f := by
  rcases content with fault | _ | c
  · rfl
  · rfl
  · exact congrArg some (h c)

section Standard

variable {images : Option (ImageSource → Report Bool)} {config : Config}

/-- A value without a builder, and the error that is shown for it. -/
inductive Refused (images : Option (ImageSource → Report Bool)) : Json → NodeError → Prop where
  | plain {v : Json} (h : v.isObject = false) : Refused images v (.malformed v)
  | untyped {config : Config} (htag : config.name? "type" = none) :
      Refused images (.obj config) .missingType
  | unknown {config : Config} {tag : String} (htag : config.name? "type" = some tag)
      (hform : Form.ofTag? images tag config = none) :
      Refused images (.obj config) (.unknownType tag)

theorem render_refused {v : Json} {e : NodeError} (h : Refused images v e) :
    (Host.standard images).render v = reportError e (identity v.config) := by
  cases h with
  | plain h =>
    cases v with
    | obj config => cases h
    | _ => rfl
  | untyped htag =>
    change buildNode _ _ _ = _
    simp only [buildNode, htag, Json.config]
  | unknown htag hform =>
    have hlookup := lookup_of_ofTag?_none hform
    change buildNode _ _ _ = _
    simp only [buildNode, htag, Host.standard, hlookup, Json.config]

/-- Induction on a document for the standard builders: a value is refused, or it is a node with a
form, a child and items. -/
theorem form_induction (images : Option (ImageSource → Report Bool)) {motive : Json → Prop}
    (refused : ∀ v e, Refused images v e → motive v)
    (node : ∀ (config : Config) (tag : String) (form : Form), config.name? "type" = some tag →
      Form.ofTag? images tag config = some form → motive (config.get "child") →
      (∀ v ∈ (config.get "children").items, motive v) → motive (.obj config))
    (v : Json) : motive v := by
  induction v using Json.document_induction with
  | plain v hv => exact refused v _ (.plain hv)
  | node config hget hitem =>
    cases htag : config.name? "type" with
    | none => exact refused _ _ (.untyped htag)
    | some tag =>
      cases hform : Form.ofTag? images tag config with
      | none => exact refused _ _ (.unknown htag hform)
      | some form => exact node config tag form htag hform (hget "child") (hitem "children")

theorem run_form {tag : String} {form : Form} (hform : Form.ofTag? images tag config = some form) :
    ∃ b, Registry.standard.lookup tag = some b ∧
      (b config).run images ((Host.standard images).nodePart config) =
        form.pass (identity config) ((Host.standard images).renderChild (config.get "child"))
          ((Host.standard images).renderItems 0 (config.get "children").items) := by
  cases hb : Registry.standard.lookup tag with
  | none => rw [ofTag?_eq_none images hb] at hform; cases hform
  | some b =>
    obtain ⟨form', hform', hruns⟩ := ofTag?_runs images hb config
    have heq : form' = form := Option.some.inj (hform'.symm.trans hform)
    have hrun := hruns ((Host.standard images).nodePart config) rfl
    rw [childParts_nodePart, renderMember_nodePart, heq] at hrun
    exact ⟨b, rfl, hrun⟩

theorem pass_steady {tag : String} {form : Form}
    (hform : Form.ofTag? images tag config = some form) :
    (form.pass (identity config) ((Host.standard images).renderChild (config.get "child"))
      ((Host.standard images).renderItems 0 (config.get "children").items)).Steady := by
  obtain ⟨b, -, hrun⟩ := run_form hform
  rw [← hrun]
  exact Build.run_steady _ (.mk (.pure _) (by simp) (partedMembers_steady _ config)) _

theorem render_form {tag : String} {form : Form} (htag : config.name? "type" = some tag)
    (hform : Form.ofTag? images tag config = some form) :
    (Host.standard images).render (.obj config) =
      contained tag (identity config) (form.pass (identity config)
        ((Host.standard images).renderChild (config.get "child"))
        ((Host.standard images).renderItems 0 (config.get "children").items)) := by
  obtain ⟨b, hb, hrun⟩ := run_form hform
  rw [Host.render_node htag hb, ← hrun]
  rfl

theorem render_value {tag : String} {form : Form} (htag : config.name? "type" = some tag)
    (hform : Form.ofTag? images tag config = some form) (path : Path) (s : Store) :
    let host := Host.standard images
    let key := identity config (path ++ [tag])
    (host.render (.obj config) path s).value =
      inPlace ((Option.map (Content.widget key (s.held key)
        (host.renderChild (config.get "child") (path ++ [tag]) s).value
        (host.renderItems 0 (config.get "children").items (path ++ [tag]) s).value))
        <$> form.content) := by
  intro host key
  rw [render_form htag hform, contained_run]
  exact congrArg inPlace (form.pass_run _ _ _ _ s).1

theorem render_store {tag : String} {form : Form} (htag : config.name? "type" = some tag)
    (hform : Form.ofTag? images tag config = some form) (path : Path) (s : Store) :
    let host := Host.standard images
    (host.render (.obj config) path s).store =
      match form.reach with
      | .nothing => s
      | .seed seed => s.sown (identity config (path ++ [tag])) seed
      | .child => (host.renderChild (config.get "child") (path ++ [tag]) s).store
      | .items => (host.renderItems 0 (config.get "children").items (path ++ [tag]) s).store := by
  intro host
  rw [render_form htag hform, contained_run]
  exact (form.pass_run _ _ _ _ s).2.1

end Standard

end ServerUi
