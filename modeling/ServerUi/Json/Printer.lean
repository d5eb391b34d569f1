import ServerUi.Json.Basic
import ServerUi.Number.Decimal
import ServerUi.Text.Hex

/-! Writing a value as JSON, in ASCII, on one line or with one member a line. -/

namespace ServerUi.Json

/-- `\u` and the four digits of a 16-bit unit. -/
def unitEscape (n : Nat) : List Char := '\\' :: 'u' :: hexDigits 'a' 4 n

/-- A character past the first 65536 takes two escapes. -/
def escapedChar (c : Char) : List Char :=
  if c = '"' then ['\\', '"']
  else if c = '\\' then ['\\', '\\']
  else if c = '\n' then ['\\', 'n']
  else if c = '\r' then ['\\', 'r']
  else if c = '\t' then ['\\', 't']
  else if c = '\x08' then ['\\', 'b']
  else if c = '\x0c' then ['\\', 'f']
  else if ' ' ≤ c ∧ c ≤ '~' then [c]
  else if c.toNat < 0x10000 then unitEscape c.toNat
  else
    let n := c.toNat - 0x10000
    unitEscape (0xd800 + n / 0x400) ++ unitEscape (0xdc00 + n % 0x400)

def stringText (s : String) : List Char :=
  '"' :: s.toList.flatMap escapedChar ++ ['"']

/-- Numbers that no decimal stands for are written as bare words. -/
def floatText : Double → List Char
  | .infinite negative => (if negative then "-Infinity" else "Infinity").toList
  | .nan => "NaN".toList
  | x => x.text.toList

/-- Where the next member is written: on the same line, or on a line of its own at a depth. -/
inductive Layout where
  | line
  | depth (n : Nat)

namespace Layout

def deeper : Layout → Layout
  | line => line
  | depth n => depth (n + 1)

/-- What stands between a bracket and the member next to it. -/
def gap : Layout → List Char
  | line => []
  | depth n => '\n' :: List.replicate (2 * n) ' '

def comma : Layout → List Char
  | line => [',', ' ']
  | depth n => ',' :: gap (depth n)

end Layout

mutual

def write (layout : Layout) : Json → List Char
  | null => "null".toList
  | bool b => (if b then "true" else "false").toList
  | int n => (toString n).toList
  | float x => floatText x
  | str s => stringText s
  | arr [] => ['[', ']']
  | arr (v :: rest) =>
    '[' :: layout.deeper.gap ++ write layout.deeper v ++ writeItems layout.deeper rest ++
      layout.gap ++ [']']
  | obj [] => ['\x7b', '\x7d']
  | obj ((k, v) :: rest) =>
    '\x7b' :: layout.deeper.gap ++ stringText k ++ ':' :: ' ' :: write layout.deeper v ++
      writeMembers layout.deeper rest ++ layout.gap ++ ['\x7d']

/-- The items after the first, each behind its comma. -/
def writeItems (layout : Layout) : List Json → List Char
  | [] => []
  | v :: rest => layout.comma ++ write layout v ++ writeItems layout rest

/-- The members after the first, each behind its comma. -/
def writeMembers (layout : Layout) : List (String × Json) → List Char
  | [] => []
  | (k, v) :: rest =>
    layout.comma ++ stringText k ++ ':' :: ' ' :: write layout v ++ writeMembers layout rest

end

def line (v : Json) : String := String.ofList (write .line v)

/-- One member a line, two spaces a level. -/
def indented (v : Json) : String := String.ofList (write (.depth 0) v)

end ServerUi.Json
