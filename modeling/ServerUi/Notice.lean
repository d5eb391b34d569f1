import ServerUi.Fault
import ServerUi.Json.Literal

/-! The log. Every record is kept as what it reports; its level and its text follow from that. A
record is put into words later, which may fail on what it holds. -/

namespace ServerUi

inductive Level where
  | debug
  | info
  | warning
  deriving DecidableEq

namespace Level

def rank : Level → Nat
  | debug => 10
  | info => 20
  | warning => 30

def name : Level → String
  | debug => "DEBUG"
  | info => "INFO"
  | warning => "WARNING"

end Level

inductive Notice where
  | choiceType (choice : String) (value : Json)
  | choiceUnknown (choice : String) (value : String)
  | colorType (value : Json)
  | colorDigits (text : String)
  | colorName (text : String)
  | insetType (side : String) (value : Json)
  | insetsInvalid (value : Json)
  | radiusInvalid (value : Json)
  | dimensionInvalid (value : Json)
  | weightName (text : String)
  | weightNumber (value : Json)
  | styleType (value : Json)
  | iconUnmapped (name : String)
  | imageRejected (kind location : String)
  | node (error : NodeError) (key : String)
  | builderTraceback
  | childSkipped (index : Nat) (value : Json)
  | childIgnored (field : String) (value : Json)
  | builderReplaced (tag : String)
  | stateWritten (key : String) (value : Json)
  | textChanged (key : String) (value : Json)
  | checkboxChanged (label : Option String) (value : Bool)
  | dropdownChanged (label : Option String) (value : String)
  | optionUnknown (label : Option String) (value : Json)
  | actionMissing
  | actionUnknown (kind : Json)
  | actionInvalid (kind : String) (errors : Nat)
  | actionFailed (kind : String) (fault : Fault)
  | actionTraceback
  | pressed (message : String)
  | snackbar (message : String)
  | documentLoaded (path : String)
  | documentEmpty
  | documentErrors (count : Nat)

namespace Notice

def level : Notice → Level
  | colorType _ | colorDigits _ | colorName _ | imageRejected .. | node .. | optionUnknown ..
  | actionUnknown _ | actionInvalid .. | actionFailed .. | documentErrors _ => .warning
  | iconUnmapped _ | textChanged .. | checkboxChanged .. | dropdownChanged .. | actionMissing
  | pressed _ | snackbar _ | documentEmpty => .info
  | _ => .debug

/-- A label in the log; one that is missing or empty has a stand-in. -/
def named : Option String → String
  | none | some "" => "unnamed"
  | some label => label

/-- The words of a record that can be told. -/
def text : Notice → String
  | choiceType choice value => s!"Ignoring non-string {choice} value: {value.literal}"
  | choiceUnknown choice value => s!"Unknown {choice} value: {quoted value}"
  | colorType value => s!"Invalid color value: {value.literal}"
  | colorDigits text => s!"Invalid hex color: {text}"
  | colorName text => s!"Unknown color name: {text}"
  | insetType side value => s!"Ignoring non-numeric {side} inset: {value.literal}"
  | insetsInvalid value => s!"Invalid edge insets: {value.literal}"
  | radiusInvalid value => s!"Invalid border radius: {value.literal}"
  | dimensionInvalid value => s!"Invalid dimension: {value.literal}"
  | weightName text => s!"Unknown font weight: {quoted text}"
  | weightNumber value => s!"Unsupported numeric font weight: {value.literal}"
  | styleType value => s!"Ignoring non-object text style: {value.literal}"
  | iconUnmapped name => s!"Unmapped icon name: {name}, using help_outline"
  | imageRejected kind location => s!"Image not loadable: {kind}:{location}"
  | node (.malformed v) _ => (NodeError.malformed v).message
  | node .missingType _ => "Widget config missing type field"
  | node (.unknownType tag) _ => s!"Unknown widget type: {tag}"
  | node (.failed fault) key => s!"Error parsing widget {key}: {fault.details}"
  | builderTraceback => "Builder traceback"
  | childSkipped index value => s!"Skipping non-object child at index {index}: {value.literal}"
  | childIgnored field value => s!"Ignoring non-object '{field}': {value.literal}"
  | builderReplaced tag => s!"Replacing builder for node type: {tag}"
  | stateWritten key value => s!"State {key} = {value.literal}"
  | textChanged key value => s!"TextField {key} changed: {value.shown}"
  | checkboxChanged label value =>
    s!"Checkbox {named label} changed to: {(Json.bool value).literal}"
  | dropdownChanged label value => s!"Dropdown {named label} changed to: {value}"
  | optionUnknown label value =>
    s!"Dropdown {named label} ignoring unknown option: {value.shown}"
  | actionMissing => "Button pressed with no action"
  | actionUnknown kind => s!"Unknown action type: {kind.shown}"
  | actionInvalid kind errors => s!"Invalid {kind} action: {errors} error(s)"
  | actionFailed kind fault => s!"Action {kind} failed: {fault.details}"
  | actionTraceback => "Action handler traceback"
  | pressed message => s!"Button pressed: {message}"
  | snackbar message => s!"Snackbar: {message}"
  | documentLoaded path => s!"Loaded UI document from {path}"
  | documentEmpty => "Document rendered no widget, host fallback required"
  | documentErrors count => s!"Document rendered with {count} inline error(s)"

/-- Whether a log kept from `least` on holds a record. -/
def reaches (least : Level) (n : Notice) : Bool := least.rank ≤ n.level.rank

end Notice

end ServerUi
