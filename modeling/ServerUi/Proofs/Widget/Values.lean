import ServerUi.Proofs.Widget.Walk
import ServerUi.Widget.Dump

/-! Trees without the cells of their interactive widgets. Of a dump, nothing but the value of a
checkbox and the selection of a dropdown hangs on the cells. -/

namespace ServerUi

namespace Widget

mutual

/-- The dump is the same if that of no leaf is changed. -/
theorem dump_mapLeaves {f : Leaf → Leaf} (hf : ∀ l, (leaf (f l)).dump = (leaf l).dump) :
    ∀ w : Widget, (w.mapLeaves f).dump = w.dump
  | leaf l => hf l
  | wrapper w none => rfl
  | wrapper w (some child) => by rw [mapLeaves, dump, dump, dump_mapLeaves hf child]
  | group g children => by rw [mapLeaves, dump, dump, dumps_mapLeaves hf children]

theorem dumps_mapLeaves {f : Leaf → Leaf} (hf : ∀ l, (leaf (f l)).dump = (leaf l).dump) :
    ∀ ws : List Widget, dumps (mapAllLeaves f ws) = dumps ws
  | [] => rfl
  | w :: rest => by rw [mapAllLeaves, dumps, dumps, dump_mapLeaves hf w, dumps_mapLeaves hf rest]

end

end Widget

/-- A leaf without its cell, and without the identity of its node. -/
def Leaf.unvalued : Leaf → Leaf
  | .textField label hint _ => .textField label hint none
  | .checkbox label _ => .checkbox label none
  | .dropdown options label _ => .dropdown options label none
  | l => l

def Widget.unvalued : Widget → Widget := mapLeaves Leaf.unvalued

theorem Widget.errors_unvalued (w : Widget) : w.unvalued.errors = w.errors :=
  errors_mapLeaves (fun l => by cases l <;> rfl) w

namespace Json

mutual

/-- A value in which all members of the given names are left out, however deep they are. -/
def without (names : List String) : Json → Json
  | arr items => arr (withoutAll names items)
  | obj members => obj (withoutMembers names members)
  | v => v

def withoutAll (names : List String) : List Json → List Json
  | [] => []
  | v :: rest => without names v :: withoutAll names rest

def withoutMembers (names : List String) : List (String × Json) → List (String × Json)
  | [] => []
  | (k, v) :: rest =>
    if names.contains k then withoutMembers names rest
    else (k, without names v) :: withoutMembers names rest

end

end Json

/-- The names under which a dump shows what the cells hold. -/
def valueNames : List String := ["value", "selected"]

def Widget.dumpWithoutValues (w : Widget) : Json := w.dump.without valueNames

namespace Widget

theorem dumpWithoutValues_leaf (l : Leaf) :
    (leaf l.unvalued).dumpWithoutValues = (leaf l).dumpWithoutValues := by
  cases l <;> rfl

mutual

theorem dump_unvalued : ∀ w : Widget, w.unvalued.dumpWithoutValues = w.dumpWithoutValues
  | leaf l => dumpWithoutValues_leaf l
  | wrapper w none => rfl
  | wrapper w (some child) => by
    have h := dump_unvalued child
    simp only [dumpWithoutValues, unvalued, mapLeaves, dump, Json.without, Json.withoutMembers]
      at h ⊢
    rw [h]
  | group g children => by
    have h := dumps_unvalued children
    simp only [dumpWithoutValues, unvalued, mapLeaves, dump, Json.without, Json.withoutMembers]
    rw [h]

theorem dumps_unvalued : ∀ ws : List Widget,
    Json.withoutAll valueNames (dumps (mapAllLeaves Leaf.unvalued ws)) =
      Json.withoutAll valueNames (dumps ws)
  | [] => rfl
  | w :: rest => by
    have h := dump_unvalued w
    simp only [dumpWithoutValues, unvalued] at h
    rw [mapAllLeaves, dumps, dumps, Json.withoutAll, Json.withoutAll, h, dumps_unvalued rest]

end

end Widget

end ServerUi
