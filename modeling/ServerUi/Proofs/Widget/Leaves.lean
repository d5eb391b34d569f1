import Mathlib.Tactic.Common
import ServerUi.Proofs.Widget.Walk

/-! A property of all leaves of a tree, and what a change of one leaf does to it. -/

namespace ServerUi.Widget

def AllLeaves (P : Leaf → Prop) (w : Widget) : Prop := ∀ l, leaf l ∈ w.walk → P l

section AllLeaves

variable {P : Leaf → Prop}

theorem allLeaves_leaf {l : Leaf} : (leaf l).AllLeaves P ↔ P l := by
  simp only [AllLeaves, walk, List.mem_singleton, leaf.injEq, forall_eq]

theorem allLeaves_wrapper {w : Wrapper} {child : Option Widget} :
    (wrapper w child).AllLeaves P ↔ ∀ c ∈ child, c.AllLeaves P := by
  cases child with
  | none => simp [AllLeaves, walk_wrapper]
  | some c => simp [AllLeaves, walk_wrapper]

theorem allLeaves_group {g : Group} {ws : List Widget} :
    (group g ws).AllLeaves P ↔ ∀ w ∈ ws, w.AllLeaves P := by
  simp only [AllLeaves, walk_group, List.mem_cons, reduceCtorEq, false_or, List.mem_flatMap]
  exact ⟨fun h w hw l hl => h l ⟨w, hw, hl⟩, fun h l ⟨w, hw, hl⟩ => h w hw l hl⟩

end AllLeaves

section Change

variable {f : Leaf → Leaf}

mutual

theorem changeFrom_allLeaves {P : Leaf → Prop} (hf : ∀ l, P l → P (f l)) :
    ∀ (n : Nat) (w : Widget), w.AllLeaves P → (changeFrom f n w).1.AllLeaves P
  | 0, leaf l, h => allLeaves_leaf.mpr (hf l (allLeaves_leaf.mp h))
  | 0, wrapper _ _, h | 0, group _ _, h => h
  | _ + 1, leaf _, h | _ + 1, wrapper _ none, h => h
  | n + 1, wrapper w (some child), h => by
    have hchild := changeFrom_allLeaves hf n child (allLeaves_wrapper.mp h child rfl)
    refine allLeaves_wrapper.mpr ?_
    rintro _ ⟨⟩
    exact hchild
  | n + 1, group g children, h =>
    allLeaves_group.mpr (changeAll_allLeaves hf n children (allLeaves_group.mp h))

theorem changeAll_allLeaves {P : Leaf → Prop} (hf : ∀ l, P l → P (f l)) :
    ∀ (n : Nat) (ws : List Widget), (∀ w ∈ ws, w.AllLeaves P) →
      ∀ w ∈ (changeAll f n ws).1, w.AllLeaves P
  | _, [], _ => by simp [changeAll]
  | n, w :: rest, h => by
    obtain ⟨hw, hrest⟩ := List.forall_mem_cons.mp h
    have hfirst := changeFrom_allLeaves hf n w hw
    rw [changeAll]
    rcases hchange : changeFrom f n w with ⟨v, _ | left⟩
    · rw [hchange] at hfirst
      exact List.forall_mem_cons.mpr ⟨hfirst, hrest⟩
    · rw [hchange] at hfirst
      exact List.forall_mem_cons.mpr ⟨hfirst, changeAll_allLeaves hf left rest hrest⟩

end

theorem changeAt_allLeaves {P : Leaf → Prop} (hf : ∀ l, P l → P (f l)) (place : Nat) {w : Widget}
    (h : w.AllLeaves P) : (w.changeAt f place).AllLeaves P :=
  changeFrom_allLeaves hf place w h

mutual

/-- A place behind a tree is passed on. -/
theorem changeFrom_behind : ∀ (n : Nat) (w : Widget),
    changeFrom f (w.walk.length + n) w = (w, some n)
  | n, leaf l => by
    rw [walk, List.length_singleton, Nat.add_comm]
    rfl
  | n, wrapper w none => by
    rw [walk, List.length_singleton, Nat.add_comm]
    rfl
  | n, wrapper w (some child) => by
    have hchild := changeFrom_behind n child
    rw [walk, List.length_cons, Nat.add_right_comm, changeFrom, hchild]
  | n, group g children => by
    have hchildren := changeAll_behind n children
    rw [walk, List.length_cons, Nat.add_right_comm, changeFrom, hchildren]

theorem changeAll_behind : ∀ (n : Nat) (ws : List Widget),
    changeAll f ((walkAll ws).length + n) ws = (ws, some n)
  | n, [] => by
    rw [walkAll, List.length_nil, Nat.zero_add]
    rfl
  | n, w :: rest => by
    have hrest := changeAll_behind n rest
    have hfirst := changeFrom_behind ((walkAll rest).length + n) w
    rw [walkAll, List.length_append, Nat.add_assoc, changeAll, hfirst]
    dsimp only
    rw [hrest]

end

mutual

/-- A change that gives back the leaf that it takes leaves the tree as it is. -/
theorem changeFrom_same {l : Leaf} (hf : f l = l) : ∀ (n : Nat) (w : Widget),
    w.walk[n]? = some (leaf l) → changeFrom f n w = (w, none)
  | 0, leaf m, h => by
    obtain ⟨⟩ := Option.some.inj h
    rw [changeFrom, hf]
  | 0, wrapper _ none, _ | 0, wrapper _ (some _), _ | 0, group _ _, _ => rfl
  | n + 1, leaf m, h | n + 1, wrapper _ none, h => by cases h
  | n + 1, wrapper w (some child), h => by
    rw [walk, List.getElem?_cons_succ] at h
    rw [changeFrom, changeFrom_same hf n child h]
  | n + 1, group g children, h => by
    rw [walk, List.getElem?_cons_succ] at h
    rw [changeFrom, changeAll_same hf n children h]

theorem changeAll_same {l : Leaf} (hf : f l = l) : ∀ (n : Nat) (ws : List Widget),
    (walkAll ws)[n]? = some (leaf l) → changeAll f n ws = (ws, none)
  | n, [], h => by cases h
  | n, w :: rest, h => by
    rw [walkAll] at h
    rw [changeAll]
    by_cases hn : n < w.walk.length
    · rw [List.getElem?_append_left hn] at h
      rw [changeFrom_same hf n w h]
    · rw [List.getElem?_append_right (Nat.le_of_not_lt hn)] at h
      obtain ⟨k, rfl⟩ := Nat.exists_eq_add_of_le (Nat.le_of_not_lt hn)
      rw [Nat.add_sub_cancel_left] at h
      rw [changeFrom_behind]
      dsimp only
      rw [changeAll_same hf k rest h]

end

theorem changeAt_same {l : Leaf} (hf : f l = l) {place : Nat} {w : Widget}
    (h : w.walk[place]? = some (leaf l)) : w.changeAt f place = w := by
  rw [changeAt, changeFrom_same hf place w h]

end Change

end ServerUi.Widget
