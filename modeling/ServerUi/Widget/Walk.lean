import ServerUi.Widget.Basic

/-! All widgets of a tree, each in front of its children, in layout order. -/

namespace ServerUi.Widget

mutual

def walk : Widget → List Widget
  | leaf l => [leaf l]
  | wrapper w none => [wrapper w none]
  | wrapper w (some child) => wrapper w (some child) :: walk child
  | group g children => group g children :: walkAll children

def walkAll : List Widget → List Widget
  | [] => []
  | w :: rest => walk w ++ walkAll rest

end

def errors (w : Widget) : List String := w.walk.filterMap errorMessage?

mutual

/-- Applies a change to the leaf at a place of the walk; the second part is what is left of the
place behind this widget, or nothing if the place is inside it. -/
def changeFrom (change : Leaf → Leaf) : Nat → Widget → Widget × Option Nat
  | 0, leaf l => (leaf (change l), none)
  | 0, w => (w, none)
  | n + 1, leaf l => (leaf l, some n)
  | n + 1, wrapper w none => (wrapper w none, some n)
  | n + 1, wrapper w (some child) =>
    let (child, left) := changeFrom change n child
    (wrapper w (some child), left)
  | n + 1, group g children =>
    let (children, left) := changeAll change n children
    (group g children, left)

def changeAll (change : Leaf → Leaf) : Nat → List Widget → List Widget × Option Nat
  | n, [] => ([], some n)
  | n, w :: rest =>
    match changeFrom change n w with
    | (w, none) => (w :: rest, none)
    | (w, some left) =>
      let (rest, left) := changeAll change left rest
      (w :: rest, left)

end

/-- The tree with the leaf at a place of the walk changed. -/
def changeAt (change : Leaf → Leaf) (place : Nat) (w : Widget) : Widget :=
  (changeFrom change place w).1

end ServerUi.Widget
