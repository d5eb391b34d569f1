import ServerUi.Proofs.Builder.Kinds
import ServerUi.Proofs.Render.Document
import ServerUi.Proofs.Widget.Walk

/-! The nodes of a document that are visited, each in front of those below it, and what each of them
adds to the walk through the widgets. -/

namespace ServerUi

inductive Fate where
  | error (e : NodeError)
  | absent
  | built (tag : String)

section Fate

variable (images : Option (ImageSource → Report Bool))

def fate : Json → Fate
  | .obj config =>
    match Config.name? config "type" with
    | none => .error .missingType
    | some tag =>
      match Registry.standard.lookup tag with
      | none => .error (.unknownType tag)
      | some b =>
        let node := (Host.standard images).nodePart config
        match ((b config).run images node [] .ephemeral).value with
        | .error fault => .error (.failed fault)
        | .ok none => .absent
        | .ok (some _) => .built tag
  | v => .error (.malformed v)

/-- The values in a node of a type that are rendered if they are objects. -/
def slots (tag : String) (config : Config) : List Json :=
  if tag ∈ ["column", "row", "listView"] then (config.get "children").items
  else if tag ∈ ["container", "center", "sizedBox", "card"] then [config.get "child"]
  else []

/-- The nodes directly below a node; only one that is built has any. -/
def below : Json → List Json
  | .obj config =>
    match fate images (.obj config) with
    | .built tag => (slots tag config).filter Json.isObject
    | _ => []
  | _ => []

theorem mem_slots {u : Json} {tag : String} {config : Config} (h : u ∈ slots tag config) :
    u ∈ (config.get "children").items ∨ u = config.get "child" := by
  unfold slots at h
  split at h
  · exact .inl h
  · split at h
    · exact .inr (List.mem_singleton.mp h)
    · exact absurd h List.not_mem_nil

theorem sizeOf_below_lt {u v : Json} (h : u ∈ below images v) : sizeOf u < sizeOf v := by
  cases v with
  | obj config =>
    simp only [below] at h
    split at h
    · rcases mem_slots (List.mem_filter.mp h).1 with hu | rfl
      · exact Nat.lt_trans (Json.sizeOf_item_lt hu) (Json.sizeOf_get_lt config "children")
      · exact Json.sizeOf_get_lt config "child"
    · cases h
  | _ => cases h

/-- A node and all nodes below it, in the order of the document. -/
def visited (v : Json) : List Json :=
  v :: (below images v).attach.flatMap fun u => visited u.1
termination_by sizeOf v
decreasing_by exact sizeOf_below_lt images u.2

theorem visited_eq (v : Json) :
    visited images v = v :: (below images v).flatMap (visited images) := by
  rw [visited, List.flatMap_subtype (g := visited images) fun _ _ => rfl, List.unattach_attach]

end Fate

/-- A widget as it is told apart in a walk: its kind, and its message if it is an error. -/
structure Mark where
  kind : String
  message : Option String

def Widget.mark (w : Widget) : Mark := ⟨w.kind, w.errorMessage?⟩

/-- The widgets that a node stands for once it is built, those of the nodes below it apart. -/
def ownMarks (refused : Bool) (tag : String) : List Mark :=
  if tag = "card" then [⟨"card", none⟩, ⟨"padding", none⟩]
  else if tag = "image" ∧ refused then [⟨"container", none⟩, ⟨"icon", none⟩]
  else [⟨tag, none⟩]

/-- Likewise for any node. -/
def marks (images : Option (ImageSource → Report Bool)) (v : Json) : List Mark :=
  match fate images v with
  | .error e => [⟨"error", some e.message⟩]
  | .absent => []
  | .built tag => ownMarks (refused images v.config) tag

def marksOf (ws : List Widget) : List Mark := ws.flatMap fun w => w.walk.map Widget.mark

theorem marksOf_append (ws vs : List Widget) : marksOf (ws ++ vs) = marksOf ws ++ marksOf vs :=
  List.flatMap_append

theorem marksOf_leaf {l : Leaf} (h : l.kind ≠ "error") :
    marksOf [.leaf l] = [⟨l.kind, none⟩] := by
  cases l with
  | error message frame => exact absurd rfl h
  | _ => rfl

theorem marksOf_wrapper (w : Wrapper) (child : Option Widget) :
    marksOf [.wrapper w child] = ⟨w.kind, none⟩ :: marksOf child.toList := by
  cases child <;>
    simp [marksOf, Widget.walk_wrapper, Widget.mark, Widget.kind, Widget.errorMessage?]

theorem marksOf_group (g : Group) (ws : List Widget) :
    marksOf [.group g ws] = ⟨g.kind, none⟩ :: marksOf ws := by
  simp [marksOf, Widget.walk_group, Widget.mark, Widget.kind, Widget.errorMessage?,
    List.map_flatMap]

def slotWidgets (tag : String) (child : Option Widget) (items : List Widget) : List Widget :=
  if tag ∈ ["column", "row", "listView"] then items
  else if tag ∈ ["container", "center", "sizedBox", "card"] then child.toList
  else []

theorem marksOf_content {refused : Bool} {tag : String} {c : Content} (h : c.Fits refused tag)
    (key : String) (value : Seed → Json) (child : Option Widget) (items : List Widget) :
    marksOf [c.widget key value child items] =
      ownMarks refused tag ++ marksOf (slotWidgets tag child items) := by
  cases h with
  | @leaf l hkind htag =>
    have herror : l.kind ≠ "error" := by
      rw [hkind]
      rintro rfl
      exact absurd htag (by decide)
    rw [Content.widget, marksOf_leaf herror, hkind]
    simp only [List.mem_cons, List.not_mem_nil, or_false] at htag
    rcases htag with rfl | rfl | rfl | rfl | rfl <;> rfl
  | @image l hkind htag hloads =>
    subst htag
    rw [Content.widget, marksOf_leaf (by rw [hkind]; decide), hkind, hloads]
    rfl
  | placeholder p htag hrefused =>
    subst htag
    rw [Content.widget, Placeholder.widget, marksOf_wrapper, hrefused]
    rfl
  | field label hint htag =>
    subst htag
    rfl
  | checkbox label checked htag =>
    subst htag
    rfl
  | dropdown first others label htag =>
    subst htag
    rfl
  | @single outer hkind htag =>
    rw [Content.widget, nested, marksOf_wrapper, hkind]
    simp only [List.mem_cons, List.not_mem_nil, or_false] at htag
    rcases htag with rfl | rfl | rfl <;> rfl
  | card elevation margin insets htag =>
    subst htag
    simp only [Content.widget, nested, marksOf_wrapper, Option.toList_some]
    rfl
  | @group g hkind =>
    subst hkind
    rw [Content.widget, marksOf_group]
    rcases g with ⟨_ | _, main, cross⟩ | shrinkWrap <;> rfl

theorem messages_marksOf (ws : List Widget) :
    (marksOf ws).filterMap Mark.message = ws.flatMap Widget.errors := by
  rw [marksOf, List.filterMap_flatMap]
  congr 1
  funext w
  rw [List.filterMap_map]
  rfl

/-- A content adds no error to those of what stands in its slots. -/
theorem errors_content {refused : Bool} {tag : String} {c : Content} (h : c.Fits refused tag)
    (key : String) (value : Seed → Json) (child : Option Widget) (items : List Widget) :
    (c.widget key value child items).errors =
      (slotWidgets tag child items).flatMap Widget.errors := by
  have hown : (ownMarks refused tag).filterMap Mark.message = [] := by
    rw [ownMarks]
    split
    · rfl
    · split <;> rfl
  have hmessages := messages_marksOf [c.widget key value child items]
  rw [marksOf_content h, List.filterMap_append, hown, List.nil_append, messages_marksOf,
    List.flatMap_singleton] at hmessages
  exact hmessages.symm

section Fate

variable {images : Option (ImageSource → Report Bool)} {config : Config}

theorem fate_form {tag : String} {form : Form} (htag : config.name? "type" = some tag)
    (hform : Form.ofTag? images tag config = some form) :
    fate images (.obj config) =
      match form.content with
      | .error fault => .error (.failed fault)
      | .ok none => .absent
      | .ok (some _) => .built tag := by
  obtain ⟨b, hb, hrun⟩ := run_form hform
  simp only [fate, htag, hb, hrun, (form.pass_run _ _ _ _ _).1]
  rcases form.content with _ | _ | c <;> rfl

theorem fate_refused {v : Json} {e : NodeError} (h : Refused images v e) :
    fate images v = .error e := by
  cases h with
  | plain h =>
    cases v with
    | obj config => cases h
    | _ => rfl
  | untyped htag => simp only [fate, htag]
  | unknown htag hform => simp only [fate, htag, lookup_of_ofTag?_none hform]

theorem below_built {tag : String} (h : fate images (.obj config) = .built tag) :
    below images (.obj config) = (slots tag config).filter Json.isObject := by
  rw [below, h]

theorem visited_unbuilt {v : Json} (h : ∀ tag, fate images v ≠ .built tag) :
    visited images v = [v] := by
  rw [visited_eq]
  cases v with
  | obj config =>
    rw [below]
    split
    · next tag htag => exact absurd htag (h tag)
    · rfl
  | _ => rfl

theorem marks_error {v : Json} {e : NodeError} (h : fate images v = .error e) :
    (visited images v).flatMap (marks images) = [⟨"error", some e.message⟩] := by
  rw [visited_unbuilt (by simp [h])]
  simp only [List.flatMap_cons, List.flatMap_nil, marks, h, List.append_nil]

end Fate

section Walk

variable {images : Option (ImageSource → Report Bool)}

/-- The widgets of a value, wherever it is rendered, are those that its visited nodes stand for. -/
def Walked (images : Option (ImageSource → Report Bool)) (v : Json) : Prop :=
  ∀ path s, marksOf ((Host.standard images).render v path s).value.toList =
    (visited images v).flatMap (marks images)

theorem marksOf_child {v : Json} (h : Walked images v) (path : Path) (s : Store) :
    marksOf ((Host.standard images).renderChild v path s).value.toList =
      ([v].filter Json.isObject).flatMap fun u => (visited images u).flatMap (marks images) := by
  cases v with
  | obj config =>
    simp only [List.filter_cons, Json.isObject, if_true, List.filter_nil, List.flatMap_cons,
      List.flatMap_nil, List.append_nil]
    exact h (path ++ ["child"]) s
  | _ => rfl

theorem marksOf_items {items : List Json} (h : ∀ v ∈ items, Walked images v) (i : Nat)
    (path : Path) (s : Store) :
    marksOf ((Host.standard images).renderItems i items path s).value =
      (items.filter Json.isObject).flatMap fun u => (visited images u).flatMap (marks images) := by
  induction items generalizing i path s with
  | nil => rfl
  | cons v rest ih =>
    have hrest := ih fun u hu => h u (List.mem_cons_of_mem v hu)
    cases hv : v.isObject with
    | true =>
      have hfirst := h v List.mem_cons_self (path ++ [toString i]) s
      rw [Host.renderItems_object _ hv, List.filter_cons_of_pos hv]
      simp only [Outcome.before, marksOf_append, hfirst, hrest, List.flatMap_cons]
    | false =>
      rw [Host.renderItems_skipped _ hv, List.filter_cons_of_neg (Bool.eq_false_iff.mp hv)]
      exact hrest _ _ _

theorem walked (v : Json) : Walked images v := by
  induction v using form_induction images with
  | refused v e h =>
    intro path s
    rw [render_refused h, marks_error (fate_refused h)]
    rfl
  | node config tag form htag hform hget hitem =>
    intro path s
    have hfate := fate_form htag hform
    rw [render_value htag hform]
    rcases hc : form.content with fault | _ | c <;> rw [hc] at hfate
    · rw [marks_error hfate]
      rfl
    · rw [visited_unbuilt (by simp [hfate])]
      simp only [List.flatMap_cons, List.flatMap_nil, marks, hfate]
      rfl
    · have hfits := ofTag?_fits hform c hc
      have hown : marks images (.obj config) = ownMarks (refused images config) tag := by
        simp only [marks, hfate, Json.config]
      change marksOf [Content.widget _ _ _ _ c] = _
      rw [marksOf_content hfits, visited_eq, below_built hfate, List.flatMap_cons,
        List.flatMap_assoc, hown]
      congr 1
      simp only [slotWidgets, slots]
      split
      · exact marksOf_items hitem _ _ _
      · split
        · exact marksOf_child hget _ _
        · rfl

end Walk

/-- The walk through a rendered document meets, for one visited node after another, the widgets that
the node stands for, and no others. The errors are the messages among them, and there is nothing to
show exactly if no node stands for a widget. -/
theorem present_walk (images : Option (ImageSource → Report Bool)) (document : Json) (s : Store) :
    let r := ((Host.standard images).present document s).value
    let expected := (visited images document).flatMap (marks images)
    (r.widget.elim [] Widget.walk).map Widget.mark = expected ∧
    r.errors = expected.filterMap Mark.message ∧
    (r.widget = none ↔ expected = []) := by
  intro r expected
  have hwalked : marksOf r.widget.toList = expected := by
    simp only [r, Host.present_value]
    exact walked document [] s
  have herrors : r.errors = r.widget.elim [] Widget.errors := by
    simp only [r, Host.present_value]
  rw [herrors]
  cases hw : r.widget with
  | none =>
    rw [hw] at hwalked
    rw [← hwalked]
    exact ⟨rfl, rfl, by simp [marksOf]⟩
  | some w =>
    rw [hw] at hwalked
    have hwalk : w.walk.map Widget.mark = expected := by
      rw [← hwalked]
      exact (List.append_nil _).symm
    refine ⟨hwalk, ?_, ?_⟩
    · rw [← hwalk, List.filterMap_map]
      rfl
    · have hne : expected ≠ [] := by
        rw [← hwalk]
        simp [Widget.walk_ne_nil]
      simp [hne]

end ServerUi
