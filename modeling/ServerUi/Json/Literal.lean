import ServerUi.Json.Basic
import ServerUi.Number.Decimal
import ServerUi.Text.Quoted

/-! The text of a value in messages, labels and options. Text inside a value is quoted. -/

namespace ServerUi.Json

mutual

/-- A value as a literal: `None`, `True`, `3`, `0.5`, `'a'`, `[1, 'a']`, `\x7b'k': None\x7d`. -/
def literal : Json → String
  | null => "None"
  | bool b => if b then "True" else "False"
  | int n => toString n
  | float x => x.text
  | str s => quoted s
  | arr items => "[" ++ ", ".intercalate (literals items) ++ "]"
  | obj members => "\x7b" ++ ", ".intercalate (memberLiterals members) ++ "\x7d"

def literals : List Json → List String
  | [] => []
  | v :: rest => literal v :: literals rest

def memberLiterals : List (String × Json) → List String
  | [] => []
  | (k, v) :: rest => (quoted k ++ ": " ++ literal v) :: memberLiterals rest

end

/-- A text as it is, and any other value as its literal. -/
def shown : Json → String
  | str s => s
  | v => literal v

end ServerUi.Json
