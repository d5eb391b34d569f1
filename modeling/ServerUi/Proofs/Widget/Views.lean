import ServerUi.Proofs.Widget.Shown
import ServerUi.Widget.Tree

/-! Three views of a tree of widgets: its walk, its summary, and its labels. At every address they
have the same node, and none of them has anything of the box that an image keeps for later. -/

namespace ServerUi

section Descend

variable {α β : Type}

/-- What stands at an address, which tells the way down by places among what is directly below. -/
def descend (below : α → List α) : List Nat → α → Option α
  | [], a => some a
  | i :: address, a => (below a)[i]?.bind (descend below address)

/-- What commutes with one step down commutes with the whole way. -/
theorem descend_map {below : α → List α} {below' : β → List β} {f : α → β}
    (h : ∀ a, below' (f a) = (below a).map f) (address : List Nat) (a : α) :
    descend below' address (f a) = (descend below address a).map f := by
  induction address generalizing a with
  | nil => rfl
  | cons i rest ih =>
    rw [descend, descend, h, List.getElem?_map]
    cases (below a)[i]? with
    | none => rfl
    | some b => exact ih b

end Descend

namespace Labels

def label : Labels → String
  | node label _ => label

def branches : Labels → List Labels
  | node _ below => below

mutual

/-- All nodes of a tree of labels, each in front of those below it. -/
def inOrder : Labels → List Labels
  | node label below => node label below :: inOrderAll below

def inOrderAll : List Labels → List Labels
  | [] => []
  | t :: rest => inOrder t ++ inOrderAll rest

end

end Labels

/-- What stands under `kind` in a node; null if nothing does. -/
def Json.kindShown (v : Json) : Json := v.config.get "kind"

/-- A leaf without the box that is shown in place of an image. -/
def Leaf.withoutPlaceholder : Leaf → Leaf
  | image source width height fit _ => image source width height fit none
  | l => l

namespace Widget

theorem kindShown_summary (w : Widget) : w.summary.kindShown = .str w.kind := by
  rw [summary_eq]
  rfl

theorem labelsOf_eq (ws : List Widget) : labelsOf ws = ws.map labels := by
  induction ws with
  | nil => rfl
  | cons w rest ih => exact congrArg (w.labels :: ·) ih

theorem labels_eq (w : Widget) : w.labels = .node w.label (w.children.map labels) := by
  cases w with
  | leaf l => rfl
  | wrapper w child => cases child <;> rfl
  | group g ws => rw [labels, labelsOf_eq, children]

theorem label_labels (w : Widget) : w.labels.label = w.label := by
  rw [labels_eq, Labels.label]

theorem branches_labels (w : Widget) : w.labels.branches = w.children.map labels := by
  rw [labels_eq, Labels.branches]

mutual

theorem inOrder_labels : ∀ w : Widget, w.labels.inOrder = w.walk.map labels
  | leaf _ | wrapper _ none => rfl
  | wrapper w (some child) => by
    simp only [labels, walk, Labels.inOrder, Labels.inOrderAll, List.append_nil, List.map_cons,
      inOrder_labels child]
  | group g children => by
    simp only [labels, walk, Labels.inOrder, List.map_cons, inOrderAll_labelsOf children]

theorem inOrderAll_labelsOf : ∀ ws : List Widget,
    Labels.inOrderAll (labelsOf ws) = (walkAll ws).map labels
  | [] => rfl
  | w :: rest => by
    simp only [labelsOf, walkAll, Labels.inOrderAll, List.map_append, inOrder_labels w,
      inOrderAll_labelsOf rest]

end

/-- Directly below a widget each view goes on with the children. -/
theorem views_below (w : Widget) :
    w.walk = w :: w.children.flatMap walk ∧ w.summary.nodesBelow = w.children.map summary ∧
      w.labels.branches = w.children.map labels :=
  ⟨w.walk_eq, w.nodesBelow_summary, w.branches_labels⟩

/-- The kinds that a summary shows from its root on are those of the walk. -/
theorem map_kindShown_shownNodes (w : Widget) :
    w.summary.shownNodes.map Json.kindShown = w.walk.map fun x => .str x.kind := by
  rw [shownNodes_summary, List.map_map]
  exact List.map_congr_left fun x _ => x.kindShown_summary

theorem map_label_inOrder (w : Widget) : w.labels.inOrder.map Labels.label = w.walk.map label := by
  rw [inOrder_labels, List.map_map]
  exact List.map_congr_left fun x _ => x.label_labels

/-- The summary has a node at an address if and only if the tree has, and of the same kind. -/
theorem kindShown_descend (address : List Nat) (w : Widget) :
    (descend Json.nodesBelow address w.summary).map Json.kindShown =
      (descend children address w).map fun x => .str x.kind := by
  rw [descend_map nodesBelow_summary, Option.map_map]
  exact Option.map_congr fun x _ => x.kindShown_summary

theorem label_descend (address : List Nat) (w : Widget) :
    (descend Labels.branches address w.labels).map Labels.label =
      (descend children address w).map label := by
  rw [descend_map branches_labels, Option.map_map]
  exact Option.map_congr fun x _ => x.label_labels

section MapLeaves

variable {f : Leaf → Leaf}

theorem children_mapLeaves (w : Widget) :
    (w.mapLeaves f).children = w.children.map (mapLeaves f) := by
  cases w with
  | leaf l => rfl
  | wrapper w child => cases child <;> rfl
  | group g ws => rw [mapLeaves_group, children, children]

theorem walk_mapLeaves (w : Widget) : (w.mapLeaves f).walk = w.walk.map (mapLeaves f) := by
  rw [walk_eq, walk_eq w, children_mapLeaves, List.map_cons, List.flatMap_map, List.map_flatMap]
  congr 1
  refine List.flatMap_congr fun c hc => ?_
  have := sizeOf_child_lt hc
  exact walk_mapLeaves c
termination_by sizeOf w

/-- A view that is put together from a widget and the views of its children does not show a change
of leaves that no widget shows by itself. -/
theorem view_mapLeaves {α : Type} {view : Widget → α} (own : Widget → List α → α)
    (hview : ∀ w, view w = own w (w.children.map view))
    (hown : ∀ w below, own (w.mapLeaves f) below = own w below) (w : Widget) :
    view (w.mapLeaves f) = view w := by
  rw [hview, hview w, hown, children_mapLeaves, List.map_map]
  congr 1
  refine List.map_congr_left fun c hc => ?_
  have := sizeOf_child_lt hc
  exact view_mapLeaves own hview hown c
termination_by sizeOf w

end MapLeaves

theorem children_of_kind_image {w : Widget} (h : w.kind = "image") : w.children = [] := by
  cases w with
  | leaf l => rfl
  | wrapper w child => cases w <;> simp [kind, Wrapper.kind] at h
  | group g ws => rcases g with ⟨_ | _, main, cross⟩ | shrinkWrap <;> simp [kind, Group.kind] at h

/-- A tree without the boxes that are shown in place of its images. -/
def withoutPlaceholders : Widget → Widget := mapLeaves Leaf.withoutPlaceholder

theorem own_withoutPlaceholders (w : Widget) :
    w.withoutPlaceholders.kind = w.kind ∧ w.withoutPlaceholders.properties = w.properties ∧
      w.withoutPlaceholders.label = w.label := by
  rcases w with l | ⟨w, _ | child⟩ | ⟨g, ws⟩
  · cases l <;> exact ⟨rfl, rfl, rfl⟩
  all_goals exact ⟨rfl, rfl, rfl⟩

theorem summary_withoutPlaceholders (w : Widget) : w.withoutPlaceholders.summary = w.summary := by
  refine view_mapLeaves (fun x below => .obj (("kind", .str x.kind) :: x.properties ++
    member? "children" (if below.isEmpty then none else some (.arr below)))) (fun x => ?_)
    (fun x below => ?_) w
  · rw [List.isEmpty_map, summary_eq]
  · obtain ⟨hkind, hproperties, -⟩ := x.own_withoutPlaceholders
    rw [withoutPlaceholders] at hkind hproperties
    rw [hkind, hproperties]

theorem labels_withoutPlaceholders (w : Widget) : w.withoutPlaceholders.labels = w.labels :=
  view_mapLeaves (fun x below => .node x.label below) labels_eq
    (fun x below => congrArg (Labels.node · below) x.own_withoutPlaceholders.2.2) w

theorem placeholder_notMem_names (w : Widget) :
    "error_placeholder" ∉ w.traits.map Prod.fst := by
  rcases w with l | ⟨w, child⟩ | ⟨g, ws⟩
  · cases l <;> simp [traits, Leaf.traits, ErrorFrame.traits]
  · cases w <;> simp [traits, Wrapper.traits]
  · cases g <;> simp [traits, Group.traits]

/-- Nowhere in a summary is the box of an image. -/
theorem lookup_placeholder_shownNodes {w : Widget} {v : Json} (hv : v ∈ w.summary.shownNodes) :
    v.config.lookup "error_placeholder" = none := by
  rw [shownNodes_summary] at hv
  obtain ⟨x, -, rfl⟩ := List.mem_map.mp hv
  have hnone := lookup_properties_of_notMem x.placeholder_notMem_names (by decide)
  rw [summary_eq, Json.config, List.cons_append, lookup_cons_ite, if_neg (by decide),
    List.lookup_append, hnone]
  cases x.children <;> rfl

end Widget

end ServerUi
