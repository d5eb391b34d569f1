import ServerUi.Toml.Basic

/-! Reading keys and values of a settings file. -/

namespace ServerUi.Toml

abbrev Result (α : Type) := Except TomlFlaw (α × List Char)

def invalid : Except TomlFlaw α := .error .invalid

def isBlank (c : Char) : Bool := c == ' ' || c == '\t'

def skipBlanks (cs : List Char) : List Char := cs.dropWhile isBlank

def isControl (c : Char) : Bool := (c.toNat < 32 && c != '\t') || c.toNat == 127

/-- A comment up to the end of its line, if there is one. -/
def skipComment : List Char → Except TomlFlaw (List Char)
  | '#' :: rest =>
    if (rest.takeWhile (· != '\n')).any isControl then invalid
    else .ok (rest.dropWhile (· != '\n'))
  | cs => .ok cs

/-- Blanks, line ends and comments inside an array. -/
def skipLines : Nat → List Char → Except TomlFlaw (List Char)
  | 0, cs => .ok cs
  | fuel + 1, cs =>
    match cs.dropWhile fun c => isBlank c || c == '\n' with
    | '#' :: rest => do
      let rest ← skipComment ('#' :: rest)
      skipLines fuel rest
    | rest => .ok rest

/-- The text that starts with a given one, behind it. -/
def after? (front cs : List Char) : Option (List Char) := Json.afterWord? front cs

/-- The character with a number, unless the number is that of half a pair or of none. -/
def scalar? (n : Nat) : Option Char :=
  if n < 0xd800 ∨ (0xe000 ≤ n ∧ n < 0x110000) then some (Char.ofNat n) else none

def readNumbered (count : Nat) (cs : List Char) : Except TomlFlaw (Char × List Char) :=
  if (cs.take count).length < count then invalid
  else
    match (hexNumber? (cs.take count)).bind scalar? with
    | some c => .ok (c, cs.drop count)
    | none => invalid

def unescaped? : Char → Option Char
  | 'b' => some '\x08'
  | 't' => some '\t'
  | 'n' => some '\n'
  | 'f' => some '\x0c'
  | 'r' => some '\r'
  | '"' => some '"'
  | '\\' => some '\\'
  | _ => none

def readEscape : List Char → Except TomlFlaw (Char × List Char)
  | 'u' :: rest => readNumbered 4 rest
  | 'U' :: rest => readNumbered 8 rest
  | c :: rest =>
    match unescaped? c with
    | some e => .ok (e, rest)
    | none => invalid
  | [] => invalid

/-- What a backslash at the end of a line skips: up to the next character that is no blank. -/
def skipLineEnd? (cs : List Char) : Option (Except TomlFlaw (List Char)) :=
  match cs with
  | ' ' :: _ | '\t' :: _ | '\n' :: _ =>
    match skipBlanks cs with
    | [] => some (.ok [])
    | '\n' :: rest => some (.ok (rest.dropWhile fun c => isBlank c || c == '\n'))
    | _ => some invalid
  | _ => none

/-- A text on one line behind its opening quote. -/
def readBasic : Nat → List Char → Except TomlFlaw (List Char × List Char)
  | 0, _ => invalid
  | fuel + 1, cs =>
    match cs with
    | [] => invalid
    | '"' :: rest => .ok ([], rest)
    | '\\' :: rest => do
      let (c, rest) ← readEscape rest
      let (found, rest) ← readBasic fuel rest
      return (c :: found, rest)
    | c :: rest =>
      if isControl c then invalid
      else do
        let (found, rest) ← readBasic fuel rest
        return (c :: found, rest)

/-- A text over several lines behind its opening quotes, up to the closing ones. -/
def readLong : Nat → List Char → Except TomlFlaw (List Char × List Char)
  | 0, _ => invalid
  | fuel + 1, cs =>
    match cs with
    | [] => invalid
    | '"' :: '"' :: '"' :: rest => .ok ([], rest)
    | '\\' :: rest =>
      match skipLineEnd? rest with
      | some skipped => do
        let rest ← skipped
        readLong fuel rest
      | none => do
        let (c, rest) ← readEscape rest
        let (found, rest) ← readLong fuel rest
        return (c :: found, rest)
    | c :: rest =>
      if isControl c && c != '\n' then invalid
      else do
        let (found, rest) ← readLong fuel rest
        return (c :: found, rest)

/-- A literal text on one line behind its opening quote. -/
def readLiteral : List Char → Except TomlFlaw (List Char × List Char)
  | [] => invalid
  | '\'' :: rest => .ok ([], rest)
  | c :: rest =>
    if isControl c then invalid
    else do
      let (found, rest) ← readLiteral rest
      return (c :: found, rest)

/-- A literal text over several lines behind its opening quotes. -/
def readLongLiteral : List Char → Except TomlFlaw (List Char × List Char)
  | [] => invalid
  | '\'' :: '\'' :: '\'' :: rest => .ok ([], rest)
  | c :: rest =>
    if isControl c && c != '\n' then invalid
    else do
      let (found, rest) ← readLongLiteral rest
      return (c :: found, rest)

/-- Up to two quotes behind the closing ones still belong to the text. -/
def withQuotes (quote : Char) (found rest : List Char) : List Char × List Char :=
  match rest with
  | a :: b :: more =>
    if a = quote then
      if b = quote then (found ++ [quote, quote], more) else (found ++ [quote], b :: more)
    else (found, rest)
  | [a] => if a = quote then (found ++ [quote], []) else (found, rest)
  | [] => (found, [])

/-- A line end right behind the opening quotes does not count. -/
def skipFirstLine : List Char → List Char
  | '\n' :: rest => rest
  | cs => cs

/-- A text with any of the four kinds of quotes. -/
def readText : List Char → Except TomlFlaw (List Char × List Char)
  | '"' :: '"' :: '"' :: rest => do
    let (found, rest) ← readLong (rest.length + 1) (skipFirstLine rest)
    return withQuotes '"' found rest
  | '"' :: rest => readBasic (rest.length + 1) rest
  | '\'' :: '\'' :: '\'' :: rest => do
    let (found, rest) ← readLongLiteral (skipFirstLine rest)
    return withQuotes '\'' found rest
  | '\'' :: rest => readLiteral rest
  | _ => invalid

def isBareKeyChar (c : Char) : Bool := c.isAlphanum || c == '-' || c == '_'

/-- One part of a key: bare, or a text on one line. -/
def readKeyPart (cs : List Char) : Except TomlFlaw (String × List Char) :=
  match cs with
  | '"' :: rest => do
    let (found, rest) ← readBasic (rest.length + 1) rest
    return (String.ofList found, rest)
  | '\'' :: rest => do
    let (found, rest) ← readLiteral rest
    return (String.ofList found, rest)
  | _ =>
    match cs.takeWhile isBareKeyChar with
    | [] => invalid
    | found => .ok (String.ofList found, cs.dropWhile isBareKeyChar)

/-- A key of parts with points in between, and the blanks behind it. -/
def readKey : Nat → List Char → Except TomlFlaw (Key × List Char)
  | 0, _ => invalid
  | fuel + 1, cs => do
    let (part, rest) ← readKeyPart cs
    match skipBlanks rest with
    | '.' :: rest => do
      let (key, rest) ← readKey fuel (skipBlanks rest)
      return (part :: key, rest)
    | rest => return ([part], rest)

def twoDigits? (low high : Nat) : List Char → Option (Nat × List Char)
  | a :: b :: rest =>
    if a.isDigit && b.isDigit then
      let n := Json.digitsValue [a, b]
      if low ≤ n ∧ n ≤ high then some (n, rest) else none
    else none
  | _ => none

def expect? (c : Char) : List Char → Option (List Char)
  | d :: rest => if c = d then some rest else none
  | [] => none

/-- A time of day with an optional fraction of a second. -/
def readTime? (cs : List Char) : Option (List Char) := do
  let (_, rest) ← twoDigits? 0 23 cs
  let rest ← expect? ':' rest
  let (_, rest) ← twoDigits? 0 59 rest
  let rest ← expect? ':' rest
  let (_, rest) ← twoDigits? 0 59 rest
  return ((Json.readFraction? rest).map (·.2)).getD rest

/-- A time zone: `Z`, or a sign, hours and minutes. -/
def readZone? : List Char → Option (List Char)
  | c :: rest =>
    if c = 'Z' ∨ c = 'z' then some rest
    else if c = '+' ∨ c = '-' then do
      let (_, rest) ← twoDigits? 0 23 rest
      let rest ← expect? ':' rest
      let (_, rest) ← twoDigits? 0 59 rest
      return rest
    else none
  | [] => none

/-- The time behind a date, if one stands there. -/
def readTimeOfDate? : List Char → Option (List Char)
  | c :: rest =>
    if c = 'T' ∨ c = 't' ∨ c = ' ' then do
      let rest ← readTime? rest
      return (readZone? rest).getD rest
    else none
  | [] => none

def isLeapYear (year : Nat) : Bool := year % 4 == 0 && (year % 100 != 0 || year % 400 == 0)

def daysInMonth (year month : Nat) : Nat :=
  if month = 2 then if isLeapYear year then 29 else 28
  else if [4, 6, 9, 11].contains month then 30
  else 31

/-- A date, with a time behind it or without; the first part is whether the calendar has it. -/
def readDate? (cs : List Char) : Option (Bool × List Char) := do
  let (_, _) ← twoDigits? 0 99 cs
  let (_, rest) ← twoDigits? 0 99 (cs.drop 2)
  let year := Json.digitsValue (cs.take 4)
  let rest ← expect? '-' rest
  let (month, rest) ← twoDigits? 1 12 rest
  let rest ← expect? '-' rest
  let (day, rest) ← twoDigits? 1 31 rest
  return (1 ≤ year && day ≤ daysInMonth year month, (readTimeOfDate? rest).getD rest)

/-- Digits of a class with single underscores in between; there is none without a first digit. -/
def digitRun (isDigit : Char → Bool) : List Char → List Char × List Char
  | [] => ([], [])
  | [c] => if isDigit c then ([c], []) else ([], [c])
  | '_' :: c :: rest =>
    if isDigit c then
      let (found, rest) := digitRun isDigit rest
      (c :: found, rest)
    else ([], '_' :: c :: rest)
  | c :: rest =>
    if isDigit c then
      let (found, rest) := digitRun isDigit rest
      (c :: found, rest)
    else ([], c :: rest)

def digits? (isDigit : Char → Bool) (cs : List Char) : Option (List Char × List Char) :=
  match cs with
  | c :: _ => if isDigit c then some (digitRun isDigit cs) else none
  | [] => none

def readBased? : List Char → Option (List Char)
  | '0' :: 'x' :: rest => (digits? (fun c => (hexValue? c).isSome) rest).map (·.2)
  | '0' :: 'b' :: rest => (digits? (fun c => c == '0' || c == '1') rest).map (·.2)
  | '0' :: 'o' :: rest => (digits? (fun c => '0' ≤ c && c ≤ '7') rest).map (·.2)
  | _ => none

def skipSign : List Char → List Char
  | '+' :: rest => rest
  | '-' :: rest => rest
  | cs => cs

/-- The digits in front of a point: a zero alone, or digits that start with another one. -/
def readWhole? : List Char → Option (List Char × List Char)
  | '0' :: rest => some (['0'], rest)
  | cs => digits? Char.isDigit cs

def readFraction? : List Char → Option (List Char)
  | '.' :: rest => (digits? Char.isDigit rest).map (·.2)
  | _ => none

def readExponent? : List Char → Option (List Char)
  | c :: rest =>
    if c = 'e' ∨ c = 'E' then (digits? Char.isDigit (skipSign rest)).map (·.2) else none
  | [] => none

/-- A number in base ten. A whole one can have too many digits. -/
def readDecimal? (cs : List Char) : Option (Except TomlFlaw (List Char)) := do
  let (whole, rest) ← readWhole? (skipSign cs)
  let fraction := readFraction? rest
  let behind := fraction.getD rest
  let exponent := readExponent? behind
  if fraction.isNone && exponent.isNone && integerDigitLimit < whole.length then
    return .error (.longInteger whole.length)
  else return .ok (exponent.getD behind)

/-- An infinity, or what is no number. -/
def readSpecial? (cs : List Char) : Option (List Char) :=
  (after? "inf".toList (skipSign cs)).or (after? "nan".toList (skipSign cs))

def readScalar (cs : List Char) : Except TomlFlaw (List Char) :=
  match readDate? cs with
  | some (true, rest) => .ok rest
  | some (false, _) => invalid
  | none =>
    match (readTime? cs).or (readBased? cs) with
    | some rest => .ok rest
    | none =>
      match readDecimal? cs with
      | some found => found
      | none =>
        match readSpecial? cs with
        | some rest => .ok rest
        | none => invalid

/-- Whether a value is one that nothing can be added to later. -/
def isWhole : Toml → Bool
  | array _ | table _ => true
  | _ => false

/-- Takes one more pair into an inline table. -/
def inlinePair (entries : Entries) (marks : List Mark) (key : Key) (v : Toml) :
    Except TomlFlaw (Entries × List Mark) :=
  if isFrozen marks key then invalid
  else
    match defined entries key.dropLast (key.getLast?.getD "") v with
    | some entries => .ok (entries, if isWhole v then .frozen key :: marks else marks)
    | none => invalid

/-- The room that one more call leaves, where there is any. -/
def called : Option Nat → Except TomlFlaw (Option Nat)
  | none => .ok none
  | some 0 => .error .tooDeep
  | some (room + 1) => .ok (some room)

mutual

/-- One value. `fuel` bounds how many values, items and pairs are begun, and `room` how many of the
calls that read them stand in one another. -/
def readValue (room : Option Nat) : Nat → List Char → Except TomlFlaw (Toml × List Char)
  | 0, _ => invalid
  | fuel + 1, cs =>
    match cs with
    | '"' :: _ | '\'' :: _ => do
      let (found, rest) ← readText cs
      return (text (String.ofList found), rest)
    | '[' :: rest => do
      let room ← called room
      let rest ← skipLines rest.length rest
      let (items, rest) ← readItems room fuel rest
      return (array items, rest)
    | '\x7b' :: rest => do
      let room ← called room
      match skipBlanks rest with
      | '\x7d' :: rest => return (table [], rest)
      | rest => do
        let (entries, rest) ← readPairs room fuel [] [] rest
        return (table entries, rest)
    | _ =>
      match (after? "true".toList cs).or (after? "false".toList cs) with
      | some rest => .ok (scalar, rest)
      | none => do
        let rest ← readScalar cs
        return (scalar, rest)

/-- The items of an array up to its bracket; a comma may stand behind the last one. -/
def readItems (room : Option Nat) : Nat → List Char → Except TomlFlaw (List Toml × List Char)
  | 0, _ => invalid
  | fuel + 1, cs =>
    match cs with
    | ']' :: rest => .ok ([], rest)
    | _ => do
      let (v, rest) ← readValue (← called room) fuel cs
      let rest ← skipLines rest.length rest
      match rest with
      | ']' :: rest => return ([v], rest)
      | ',' :: rest => do
        let rest ← skipLines rest.length rest
        let (vs, rest) ← readItems room fuel rest
        return (v :: vs, rest)
      | _ => invalid

def readPairs (room : Option Nat) :
    Nat → Entries → List Mark → List Char → Except TomlFlaw (Entries × List Char)
  | 0, _, _, _ => invalid
  | fuel + 1, entries, marks, cs => do
    let inner ← called room
    let (key, rest) ← readKey (cs.length + 1) cs
    match rest with
    | '=' :: rest => do
      let (v, rest) ← readValue (← called inner) fuel (skipBlanks rest)
      let (entries, marks) ← inlinePair entries marks key v
      match skipBlanks rest with
      | '\x7d' :: rest => return (entries, rest)
      | ',' :: rest => readPairs room fuel entries marks (skipBlanks rest)
      | _ => invalid
    | _ => invalid

end

end ServerUi.Toml
