import ServerUi.Builder.Interactive
import ServerUi.State.Store

/-! What a widget does when its user changes it. -/

namespace ServerUi.Leaf

/-- A checkbox takes the truth of the value, a dropdown takes one of its options and refuses
anything else, and a text field only logs. Other widgets do not change. -/
def change (l : Leaf) (v : Json) (s : Store) : Leaf × Store × List Event :=
  match l with
  | .textField label hint key =>
    (.textField label hint key, s,
      (key.map fun key => Event.note (.textChanged key v)).toList)
  | .checkbox label (some cell) =>
    let (cell, s, events) := cell.write (.bool v.truth) s
    (.checkbox label (some cell), s, events ++ [.note (.checkboxChanged label v.truth)])
  | .dropdown options label (some cell) =>
    match v with
    | .str choice =>
      if options.contains choice then
        let (cell, s, events) := cell.write (.str choice) s
        (.dropdown options label (some cell), s, events ++ [.note (.dropdownChanged label choice)])
      else (.dropdown options label (some cell), s, [.note (.optionUnknown label v)])
    | _ => (.dropdown options label (some cell), s, [.note (.optionUnknown label v)])
  | l => (l, s, [])

end ServerUi.Leaf
