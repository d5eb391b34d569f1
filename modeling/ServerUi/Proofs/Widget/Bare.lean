import Mathlib.Tactic.Common
import ServerUi.Widget.Content

/-! What two widgets with the same content have in common: the tree without cells, actions and the
identities of text fields, and without the signs of zeros. -/

namespace ServerUi

namespace Double

theorem sameNumber_zero (x : Double) : x.sameNumber .zero = x.isZero := by
  cases x with
  | finite negative units short small =>
    change (units == 0 && (negative == false || units == 0)) = (units == 0)
    cases units == 0 <;> simp
  | _ => rfl

theorem isZero_of_sameNumber {x y : Double} (h : x.sameNumber y = true) : x.isZero = y.isZero := by
  cases x with
  | finite negative units short small =>
    cases y with
    | finite negative' units' short' small' =>
      have hunits : units = units' := eq_of_beq (Bool.and_eq_true_iff.mp h).1
      exact congrArg (· == 0) hunits
    | _ => exact absurd h Bool.false_ne_true
  | infinite negative =>
    cases y with
    | infinite negative' => rfl
    | _ => exact absurd h Bool.false_ne_true
  | nan => exact absurd h Bool.false_ne_true

theorem sameNumber_of_isZero {x y : Double} (hx : x.isZero = true) (hy : y.isZero = true) :
    x.sameNumber y = true := by
  cases x with
  | finite negative units short small =>
    cases y with
    | finite negative' units' short' small' =>
      have hunits : units = units' := (eq_of_beq hx).trans (eq_of_beq hy).symm
      exact Bool.and_eq_true_iff.mpr ⟨beq_iff_eq.mpr hunits, Bool.or_eq_true_iff.mpr (.inr hx)⟩
    | _ => exact absurd hy Bool.false_ne_true
  | _ => exact absurd hx Bool.false_ne_true

theorem sameNumber_iff_eq {x y : Double} (hnan : x ≠ .nan) (hzero : ¬x.isZero = true) :
    x.sameNumber y = true ↔ x = y := by
  constructor
  · intro h
    cases x with
    | finite negative units short small =>
      cases y with
      | finite negative' units' short' small' =>
        obtain ⟨hunits, hsign⟩ := Bool.and_eq_true_iff.mp h
        obtain rfl := eq_of_beq hunits
        obtain rfl := eq_of_beq ((Bool.or_eq_true_iff.mp hsign).resolve_right hzero)
        rfl
      | _ => exact absurd h Bool.false_ne_true
    | infinite negative =>
      cases y with
      | infinite negative' => exact congrArg infinite (eq_of_beq h)
      | _ => exact absurd h Bool.false_ne_true
    | nan => exact absurd rfl hnan
  · rintro rfl
    cases x with
    | finite negative units short small =>
      exact Bool.and_eq_true_iff.mpr ⟨beq_self_eq_true units,
        Bool.or_eq_true_iff.mpr (.inl (beq_self_eq_true negative))⟩
    | infinite negative => exact beq_self_eq_true negative
    | nan => exact absurd rfl hnan

/-- Numbers that are none apart, equal numbers are those with the same image. -/
theorem sameNumber_iff {x y : Double} (hx : x ≠ .nan) :
    x.sameNumber y = true ↔ x.unsigned = y.unsigned := by
  rw [unsigned, unsigned]
  by_cases hxzero : x.isZero = true
  · rw [if_pos hxzero]
    by_cases hyzero : y.isZero = true
    · rw [if_pos hyzero]
      exact iff_of_true (sameNumber_of_isZero hxzero hyzero) rfl
    · rw [if_neg hyzero]
      refine iff_of_false (fun h => hyzero ?_) (fun h => hyzero ?_)
      · rw [← isZero_of_sameNumber h, hxzero]
      · rw [← h]
        rfl
  · rw [if_neg hxzero, sameNumber_iff_eq hx hxzero]
    by_cases hyzero : y.isZero = true
    · rw [if_pos hyzero]
      refine iff_of_false (fun h => hxzero ?_) (fun h => hxzero ?_)
      · rw [h, hyzero]
      · rw [h]
        rfl
    · rw [if_neg hyzero]

end Double

/-- What is compared of a leaf. -/
def Leaf.bare : Leaf → Leaf
  | text content style align => text content (style.map TextStyle.unsigned) align
  | richText spans align => richText (spans.map TextSpan.unsigned) align
  | button content _ => button content none
  | icon glyph size color => icon glyph (size.map Double.unsigned) color
  | image source width height fit placeholder =>
    image source (width.map Double.unsigned) (height.map Double.unsigned) fit
      (placeholder.map Placeholder.unsigned)
  | textField label hint _ => textField label hint none
  | checkbox label _ => checkbox label none
  | dropdown options label _ => dropdown options label none
  | divider height thickness color =>
    divider (height.map Double.unsigned) (thickness.map Double.unsigned) color
  | error message frame => error message frame.unsigned

theorem Leaf.same_iff (l l' : Leaf) : l.same l' = true ↔ l.bare = l'.bare := by
  cases l <;> cases l' <;> simp [same, bare, and_assoc]

namespace Widget

mutual

def bare : Widget → Widget
  | leaf l => leaf l.bare
  | wrapper w none => wrapper w.unsigned none
  | wrapper w (some child) => wrapper w.unsigned (some (bare child))
  | group g children => group g (bareAll children)

def bareAll : List Widget → List Widget
  | [] => []
  | w :: rest => bare w :: bareAll rest

end

theorem bareAll_eq (ws : List Widget) : bareAll ws = ws.map bare := by
  induction ws with
  | nil => rfl
  | cons w rest ih => exact congrArg (bare w :: ·) ih

theorem bare_wrapper (w : Wrapper) (child : Option Widget) :
    (wrapper w child).bare = wrapper w.unsigned (child.map bare) := by
  cases child <;> rfl

theorem bare_group (g : Group) (children : List Widget) :
    (group g children).bare = group g (children.map bare) := by
  rw [bare, bareAll_eq]

mutual

theorem same_iff : ∀ a b : Widget, a.same b = true ↔ a.bare = b.bare
  | leaf l, leaf l' => by simp only [same, bare, Leaf.same_iff, leaf.injEq]
  | wrapper w none, wrapper w' none => by simp [same, bare]
  | wrapper w (some child), wrapper w' (some child') => by
    simp [same, bare, same_iff child child']
  | group g children, group g' children' => by
    simp [same, bare, sameAll_iff children children']
  | leaf _, wrapper _ none | leaf _, wrapper _ (some _) | leaf _, group _ _ => by simp [same, bare]
  | wrapper _ none, leaf _ | wrapper _ (some _), leaf _ | group _ _, leaf _ => by simp [same, bare]
  | wrapper _ none, wrapper _ (some _) | wrapper _ (some _), wrapper _ none => by simp [same, bare]
  | wrapper _ none, group _ _ | wrapper _ (some _), group _ _ => by simp [same, bare]
  | group _ _, wrapper _ none | group _ _, wrapper _ (some _) => by simp [same, bare]

theorem sameAll_iff : ∀ ws vs : List Widget, sameAll ws vs = true ↔ bareAll ws = bareAll vs
  | [], [] => by simp [sameAll, bareAll]
  | w :: rest, v :: more => by simp [sameAll, bareAll, same_iff w v, sameAll_iff rest more]
  | [], _ :: _ | _ :: _, [] => by simp [sameAll, bareAll]

end

/-- Having the same content is having the same image, so it is an equivalence. -/
theorem same_equivalence : Equivalence fun a b : Widget => a.same b = true := by
  constructor
  · intro a
    exact (same_iff a a).mpr rfl
  · intro a b h
    exact (same_iff b a).mpr ((same_iff a b).mp h).symm
  · intro a b c h h'
    exact (same_iff a c).mpr (((same_iff a b).mp h).trans ((same_iff b c).mp h'))

end Widget

end ServerUi
