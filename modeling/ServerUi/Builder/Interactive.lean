import ServerUi.Builder.Program
import ServerUi.Field
import ServerUi.Json.Literal

/-! Builders for widgets that hold a value. They only seed it: the cell comes from the store, under
the identity of the node. -/

namespace ServerUi.Builder

/-- The identity is kept for the log; the text itself is not stored. -/
def textField : Builder := fun config => do
  let key ← Build.ownKey
  let label ← config.text "label"
  let hint ← config.text "hint"
  return some (.leaf (.textField label hint (some key)))

def checkbox : Builder := fun config => do
  let label ← config.text "label"
  let initial ← config.boolean "value"
  let key ← Build.ownKey
  let cell ← Build.bindCell key (.bool (initial.getD false))
  return some (.leaf (.checkbox label (some cell)))

def isOption (options : List String) : Json → Bool
  | .str s => options.contains s
  | _ => false

/-- The first option is selected at first, and again if the remembered value is no option. -/
def dropdown : Builder := fun config => do
  match ← config.array "options" with
  | none | some [] => return none
  | some (item :: items) =>
    let label ← config.text "label"
    let first := item.shown
    let options := first :: items.map Json.shown
    let key ← Build.ownKey
    let cell ← Build.bindCell key (.str first)
    let cell ← if isOption options cell.value then pure cell else Build.writeCell cell (.str first)
    return some (.leaf (.dropdown options label (some cell)))

end ServerUi.Builder
