import ServerUi.Fault

/-! Reading typed fields of a node. A missing or null field reads as nothing; a field of another
type is a fault. -/

namespace ServerUi

/-- The double nearest to a whole number, unless it is too large for one. -/
def wholeToDouble (n : Int) : Except Fault Double :=
  (Double.ofInt? n).elim (.error .overflow) .ok

namespace Config

def text (config : Config) (key : String) : Except Fault (Option String) :=
  match config.get key with
  | .null => .ok none
  | .str s => .ok (some s)
  | v => .error (.wrongType key .text v)

def number (config : Config) (key : String) : Except Fault (Option Double) :=
  match config.get key with
  | .null => .ok none
  | .int n => some <$> wholeToDouble n
  | .float x => .ok (some x)
  | v => .error (.wrongType key .number v)

def boolean (config : Config) (key : String) : Except Fault (Option Bool) :=
  match config.get key with
  | .null => .ok none
  | .bool b => .ok (some b)
  | v => .error (.wrongType key .boolean v)

def array (config : Config) (key : String) : Except Fault (Option (List Json)) :=
  match config.get key with
  | .null => .ok none
  | .arr items => .ok (some items)
  | v => .error (.wrongType key .array v)

def object (config : Config) (key : String) : Except Fault (Option Config) :=
  match config.get key with
  | .null => .ok none
  | .obj members => .ok (some members)
  | v => .error (.wrongType key .object v)

def name? (config : Config) (key : String) : Option String :=
  match config.get key with
  | .str "" => none
  | .str s => some s
  | _ => none

end Config

end ServerUi
