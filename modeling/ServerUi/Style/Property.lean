import ServerUi.Style.Resolve

/-! The style properties and their values under one type each. -/

namespace ServerUi

inductive StyleProperty where
  | color
  | textAlign
  | mainAlignment
  | crossAlignment
  | edgeInsets
  | borderRadius
  | dimension
  | boxFit
  | fontWeight
  | fontStyle
  | textStyle
  deriving DecidableEq

inductive StyleValue where
  | color (c : Color)
  | choice (name : String)
  | edgeInsets (e : EdgeInsets)
  | radius (x : Double)
  | dimension (x : Double)
  | weight (w : FontWeight)
  | text (s : TextStyle)

/-- A value that counts as true: every one but a dimension of zero. -/
def StyleValue.truth : StyleValue → Bool
  | dimension x => !x.isZero
  | _ => true

namespace StyleProperty

def resolve (property : StyleProperty) (v : Json) : Report (Option StyleValue) :=
  match property with
  | color => Option.map .color <$> Style.color v
  | textAlign => Option.map (.choice ∘ Choice.name) <$> Style.choice TextAlign v
  | mainAlignment => Option.map (.choice ∘ Choice.name) <$> Style.choice MainAlignment v
  | crossAlignment => Option.map (.choice ∘ Choice.name) <$> Style.choice CrossAlignment v
  | edgeInsets => Option.map .edgeInsets <$> Style.edgeInsets v
  | borderRadius => Option.map .radius <$> Style.borderRadius v
  | dimension => Option.map .dimension <$> Style.dimension v
  | boxFit => Option.map (.choice ∘ Choice.name) <$> Style.choice BoxFit v
  | fontWeight => Option.map .weight <$> Style.fontWeight v
  | fontStyle => Option.map (.choice ∘ Choice.name) <$> Style.choice FontStyle v
  | textStyle => Option.map .text <$> Style.textStyle v

end StyleProperty

end ServerUi
