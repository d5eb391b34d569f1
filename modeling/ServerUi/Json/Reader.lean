import ServerUi.Json.Basic
import ServerUi.Text.Hex

/-! Reading JSON. The bare words for infinities and for no number are read too. A reader returns
the value and the text behind it; what is wrong is located by the length of the text left. -/

namespace ServerUi

inductive JsonFlaw where
  | value
  | propertyName
  | colon
  | comma
  | extra
  | control
  | escape
  | unicodeEscape
  | unterminated
  | byteOrderMark
  | longInteger (digits : Nat)
  deriving DecidableEq

def integerDigitLimit : Nat := 4300

def JsonFlaw.message : JsonFlaw → String
  | value => "Expecting value"
  | propertyName => "Expecting property name enclosed in double quotes"
  | colon => "Expecting ':' delimiter"
  | comma => "Expecting ',' delimiter"
  | extra => "Extra data"
  | control => "Invalid control character at"
  | escape => "Invalid \\escape"
  | unicodeEscape => "Invalid \\uXXXX escape"
  | unterminated => "Unterminated string starting at"
  | byteOrderMark => "Unexpected UTF-8 BOM (decode using utf-8-sig)"
  | longInteger digits =>
    s!"Exceeds the limit ({integerDigitLimit} digits) for integer string conversion: " ++
      s!"value has {digits} digits; use sys.set_int_max_str_digits() to increase the limit"

namespace Json

/-- A flaw and the length of the text from its place on. -/
abbrev Located := JsonFlaw × Nat

def isBlank (c : Char) : Bool := c == ' ' || c == '\t' || c == '\n' || c == '\r'

def skipBlanks (cs : List Char) : List Char := cs.dropWhile isBlank

/-- The character that a letter behind a backslash stands for. -/
def unescaped? : Char → Option Char
  | '"' => some '"'
  | '\\' => some '\\'
  | '/' => some '/'
  | 'b' => some '\x08'
  | 'f' => some '\x0c'
  | 'n' => some '\n'
  | 'r' => some '\r'
  | 't' => some '\t'
  | _ => none

/-- What one step inside a string yields: a character, or a 16-bit unit by its number. -/
inductive Piece where
  | char (c : Char)
  | unit (n : Nat)

/-- The character of two 16-bit units, if the second one completes the first. -/
def paired? (high low : Nat) : Option Char :=
  if 0xd800 ≤ high ∧ high < 0xdc00 ∧ 0xdc00 ≤ low ∧ low < 0xe000 then
    some (Char.ofNat (0x10000 + (high - 0xd800) * 0x400 + (low - 0xdc00)))
  else none

/-- The character of one 16-bit unit. Half of a pair alone has none; it is replaced, so texts that have
one are told apart by `halves` where the difference counts. -/
def single (unit : Nat) : Char :=
  if 0xd800 ≤ unit ∧ unit < 0xe000 then '\ufffd' else Char.ofNat unit

/-- The characters of a string, with the halves of pairs put together. -/
def joined : List Piece → List Char
  | [] => []
  | .char c :: rest => c :: joined rest
  | .unit high :: .unit low :: rest =>
    match paired? high low with
    | some c => c :: joined rest
    | none => single high :: joined (.unit low :: rest)
  | .unit n :: rest => single n :: joined rest

/-- A text with its escapes read, also outside of strings, where none can stand. -/
def units : List Char → List Piece
  | [] => []
  | '\\' :: 'u' :: a :: b :: c :: d :: rest =>
    match hexNumber? [a, b, c, d] with
    | some n => .unit n :: units rest
    | none => .char 'u' :: units (a :: b :: c :: d :: rest)
  | '\\' :: c :: rest => .char c :: units rest
  | c :: rest => .char c :: units rest

/-- The rest of a string behind its opening quote, and the text behind the closing one. `start`
is the length of the text from the opening quote on. A numbered escape needs a character behind
its digits. -/
def readPieces (start : Nat) : List Char → Except Located (List Piece × List Char)
  | [] => .error (.unterminated, start)
  | '"' :: rest => .ok ([], rest)
  | '\\' :: 'u' :: a :: b :: c :: d :: x :: rest =>
    match hexNumber? [a, b, c, d] with
    | none => .error (.unicodeEscape, rest.length + 6)
    | some n => do
      let (found, after) ← readPieces start (x :: rest)
      return (.unit n :: found, after)
  | '\\' :: 'u' :: rest => .error (.unicodeEscape, rest.length + 1)
  | ['\\'] => .error (.unterminated, start)
  | '\\' :: c :: rest =>
    match unescaped? c with
    | none => .error (.escape, rest.length + 2)
    | some e => do
      let (found, after) ← readPieces start rest
      return (.char e :: found, after)
  | c :: rest =>
    if c.toNat < 0x20 then .error (.control, rest.length + 1)
    else do
      let (found, after) ← readPieces start rest
      return (.char c :: found, after)

def readString (start : Nat) (cs : List Char) : Except Located (String × List Char) := do
  let (found, after) ← readPieces start cs
  return (String.ofList (joined found), after)

def digitsValue (ds : List Char) : Nat :=
  ds.foldl (fun n d => 10 * n + (d.toNat - '0'.toNat)) 0

def spanDigits (cs : List Char) : List Char × List Char :=
  (cs.takeWhile Char.isDigit, cs.dropWhile Char.isDigit)

def readFraction? : List Char → Option (List Char × List Char)
  | '.' :: cs =>
    match spanDigits cs with
    | ([], _) => none
    | found => some found
  | _ => none

/-- The letter `e`, a sign that may be left out, and digits. -/
def readExponent? : List Char → Option (Int × List Char)
  | e :: cs =>
    if e = 'e' ∨ e = 'E' then
      let (negative, ds) :=
        match cs with
        | '-' :: ds => (true, ds)
        | '+' :: ds => (false, ds)
        | ds => (false, ds)
      match spanDigits ds with
      | ([], _) => none
      | (found, rest) =>
        let n : Int := digitsValue found
        some (if negative then -n else n, rest)
    else none
  | [] => none

/-- The digits in front of the point: a zero alone, or digits that start with another one. -/
def readWhole? : List Char → Option (List Char × List Char)
  | '0' :: rest => some (['0'], rest)
  | c :: rest => if c.isDigit then some (spanDigits (c :: rest)) else none
  | [] => none

/-- A number. With a fraction or an exponent it is a double, else a whole number. -/
def readNumber (cs : List Char) : Except Located (Json × List Char) :=
  let (negative, body) :=
    match cs with
    | '-' :: rest => (true, rest)
    | _ => (false, cs)
  match readWhole? body with
  | none => .error (.value, cs.length)
  | some (whole, rest) =>
    let fraction := readFraction? rest
    let behind := (fraction.map (·.2)).getD rest
    let exponent := readExponent? behind
    if fraction.isNone && exponent.isNone then
      if integerDigitLimit < whole.length then .error (.longInteger whole.length, cs.length)
      else
        let n : Int := digitsValue whole
        .ok (.int (if negative then -n else n), rest)
    else
      let places := (fraction.map (·.1)).getD []
      let power := (exponent.map (·.1)).getD 0
      .ok (.float (.ofDecimal negative (digitsValue (whole ++ places)) (power - places.length)),
        (exponent.map (·.2)).getD behind)

/-- What stands behind a word, if a text starts with it. -/
def afterWord? : List Char → List Char → Option (List Char)
  | [], cs => some cs
  | w :: word, c :: cs => if w = c then afterWord? word cs else none
  | _ :: _, [] => none

def words : List (String × Json) :=
  [("null", .null), ("true", .bool true), ("false", .bool false), ("NaN", .float .nan),
    ("Infinity", .float (.infinite false)), ("-Infinity", .float (.infinite true))]

def readWord? (cs : List Char) : Option (Json × List Char) :=
  words.findSome? fun (word, v) => (afterWord? word.toList cs).map (v, ·)

mutual

/-- One value. `fuel` bounds how many values, items and members are begun. -/
def readValue : Nat → List Char → Except Located (Json × List Char)
  | 0, cs => .error (.value, cs.length)
  | fuel + 1, cs =>
    match cs with
    | '"' :: rest => do
      let (s, after) ← readString cs.length rest
      return (.str s, after)
    | '[' :: rest =>
      match skipBlanks rest with
      | ']' :: after => .ok (.arr [], after)
      | items => do
        let (vs, after) ← readItems fuel items
        return (.arr vs, after)
    | '\x7b' :: rest =>
      match skipBlanks rest with
      | '\x7d' :: after => .ok (.obj [], after)
      | members => do
        let (ms, after) ← readMembers fuel [] members
        return (.obj ms, after)
    | _ =>
      match readWord? cs with
      | some found => .ok found
      | none => readNumber cs

def readItems : Nat → List Char → Except Located (List Json × List Char)
  | 0, cs => .error (.value, cs.length)
  | fuel + 1, cs => do
    let (v, behind) ← readValue fuel cs
    match skipBlanks behind with
    | ']' :: after => return ([v], after)
    | ',' :: more => do
      let (vs, after) ← readItems fuel (skipBlanks more)
      return (v :: vs, after)
    | other => .error (.comma, other.length)

/-- The members of an object up to its bracket. A key that occurs again keeps its first place
and takes the later value. -/
def readMembers : Nat → Config → List Char → Except Located (Config × List Char)
  | 0, _, cs => .error (.value, cs.length)
  | fuel + 1, found, cs =>
    match cs with
    | '"' :: rest => do
      let (key, behind) ← readString cs.length rest
      match skipBlanks behind with
      | ':' :: text => do
        let (v, behind) ← readValue fuel (skipBlanks text)
        let found := found.put key v
        match skipBlanks behind with
        | '\x7d' :: after => return (found, after)
        | ',' :: more => readMembers fuel found (skipBlanks more)
        | other => .error (.comma, other.length)
      | other => .error (.colon, other.length)
    | _ => .error (.propertyName, cs.length)

end

/-- A whole text: one value with blanks around it. Twice its length bounds what it can begin. -/
def readText (cs : List Char) : Except Located Json :=
  match cs with
  | '\ufeff' :: _ => .error (.byteOrderMark, cs.length)
  | _ => do
    let (v, behind) ← readValue (2 * cs.length + 2) (skipBlanks cs)
    match skipBlanks behind with
    | [] => return v
    | other => .error (.extra, other.length)

/-- Line and column of the place where `left` characters of a text are left, both from one. -/
def place (cs : List Char) (left : Nat) : Nat × Nat :=
  let before := cs.take (cs.length - left)
  (before.count '\n' + 1, (before.reverse.takeWhile (· != '\n')).length + 1)

end Json

end ServerUi
