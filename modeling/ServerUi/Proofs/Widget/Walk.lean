import Mathlib.Tactic.Common
import ServerUi.Widget.Walk

/-! The walk through a tree and its errors, by the shape of the tree. The errors do not hang on what
else the leaves are, so they are the same without the identities that leaves keep. -/

namespace ServerUi

namespace Widget

theorem walk_wrapper (w : Wrapper) (child : Option Widget) :
    (wrapper w child).walk = wrapper w child :: child.elim [] walk := by
  cases child <;> simp [walk]

theorem walkAll_eq (ws : List Widget) : walkAll ws = ws.flatMap walk := by
  induction ws with
  | nil => rfl
  | cons w rest ih => exact congrArg (w.walk ++ ·) ih

theorem walk_group (g : Group) (ws : List Widget) :
    (group g ws).walk = group g ws :: ws.flatMap walk := by
  rw [walk, walkAll_eq]

theorem walk_ne_nil (w : Widget) : w.walk ≠ [] := by
  rcases w with l | ⟨w, _ | child⟩ | ⟨g, ws⟩ <;> simp [walk]

theorem errors_wrapper (w : Wrapper) (child : Option Widget) :
    (wrapper w child).errors = child.elim [] errors := by
  rw [errors, walk_wrapper]
  cases child <;> rfl

theorem errors_group (g : Group) (ws : List Widget) :
    (group g ws).errors = ws.flatMap errors := by
  rw [errors, walk_group, List.filterMap_cons_none rfl, List.filterMap_flatMap]
  rfl

end Widget

namespace Widget

mutual

/-- The tree with each of its leaves changed. -/
def mapLeaves (f : Leaf → Leaf) : Widget → Widget
  | leaf l => leaf (f l)
  | wrapper w none => wrapper w none
  | wrapper w (some child) => wrapper w (some (mapLeaves f child))
  | group g children => group g (mapAllLeaves f children)

def mapAllLeaves (f : Leaf → Leaf) : List Widget → List Widget
  | [] => []
  | w :: rest => mapLeaves f w :: mapAllLeaves f rest

end

section MapLeaves

variable (f : Leaf → Leaf)

theorem mapAllLeaves_eq (ws : List Widget) : mapAllLeaves f ws = ws.map (mapLeaves f) := by
  induction ws with
  | nil => rfl
  | cons w rest ih => exact congrArg (mapLeaves f w :: ·) ih

theorem mapLeaves_wrapper (w : Wrapper) (child : Option Widget) :
    (wrapper w child).mapLeaves f = wrapper w (child.map (mapLeaves f)) := by
  cases child <;> rfl

theorem mapLeaves_group (g : Group) (ws : List Widget) :
    (group g ws).mapLeaves f = group g (ws.map (mapLeaves f)) := by
  rw [mapLeaves, mapAllLeaves_eq]

variable {f}

mutual

/-- The errors are the same if no message is changed. -/
theorem errors_mapLeaves (hf : ∀ l, (leaf (f l)).errorMessage? = (leaf l).errorMessage?) :
    ∀ w : Widget, (w.mapLeaves f).errors = w.errors
  | leaf l => by simp only [mapLeaves, errors, walk, List.filterMap_cons, hf]
  | wrapper w none => rfl
  | wrapper w (some child) => by
    rw [mapLeaves, errors_wrapper, errors_wrapper]
    exact errors_mapLeaves hf child
  | group g children => by
    rw [mapLeaves, errors_group, errors_group, errors_mapAllLeaves hf children]

theorem errors_mapAllLeaves (hf : ∀ l, (leaf (f l)).errorMessage? = (leaf l).errorMessage?) :
    ∀ ws : List Widget, (mapAllLeaves f ws).flatMap errors = ws.flatMap errors
  | [] => rfl
  | w :: rest => by
    rw [mapAllLeaves, List.flatMap_cons, List.flatMap_cons, errors_mapLeaves hf w,
      errors_mapAllLeaves hf rest]

end

end MapLeaves

end Widget

def Leaf.unnamed : Leaf → Leaf
  | .textField label hint _ => .textField label hint none
  | .checkbox label cell => .checkbox label (cell.map fun c => { c with key := "" })
  | .dropdown options label cell => .dropdown options label (cell.map fun c => { c with key := "" })
  | l => l

namespace Widget

mutual

/-- A tree without the identities of its nodes. -/
def unnamed : Widget → Widget
  | leaf l => leaf l.unnamed
  | wrapper w none => wrapper w none
  | wrapper w (some child) => wrapper w (some (unnamed child))
  | group g children => group g (unnamedAll children)

def unnamedAll : List Widget → List Widget
  | [] => []
  | w :: rest => unnamed w :: unnamedAll rest

end

mutual

theorem unnamed_eq : ∀ w : Widget, w.unnamed = w.mapLeaves Leaf.unnamed
  | leaf _ | wrapper _ none => rfl
  | wrapper w (some child) => congrArg (wrapper w ∘ some) (unnamed_eq child)
  | group g children => congrArg (group g) (unnamedAll_eq children)

theorem unnamedAll_eq : ∀ ws : List Widget, unnamedAll ws = mapAllLeaves Leaf.unnamed ws
  | [] => rfl
  | w :: rest => congrArg₂ List.cons (unnamed_eq w) (unnamedAll_eq rest)

end

theorem errors_unnamed (w : Widget) : w.unnamed.errors = w.errors := by
  rw [unnamed_eq]
  exact errors_mapLeaves (fun l => by cases l <;> rfl) w

end Widget

end ServerUi
