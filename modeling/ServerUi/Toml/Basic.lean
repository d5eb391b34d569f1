import ServerUi.Json.Reader

/-! Values of a settings file. Numbers, dates and truth values are read but not told apart, since
no setting is one. -/

namespace ServerUi

inductive Toml where
  | text (s : String)
  | scalar
  | array (items : List Toml)
  | table (entries : List (String × Toml))
  deriving Inhabited

/-- Why a settings file is not read: it breaks the grammar or defines something twice, it has a
whole number of too many digits, or its values stand too deep in one another. -/
inductive TomlFlaw where
  | invalid
  | longInteger (digits : Nat)
  | tooDeep
  deriving DecidableEq

namespace Toml

abbrev Key := List String

abbrev Entries := List (String × Toml)

/-- Puts a value under a name, in place if the name is there. -/
def put : Entries → String → Toml → Entries
  | [], name, v => [(name, v)]
  | (n, w) :: rest, name, v => if n = name then (n, v) :: rest else (n, w) :: put rest name v

/-- Changes the table that a key leads to. Tables that are missing on the way are made, and an
array leads on to its last item. -/
def within (change : Entries → Option Entries) : Entries → Key → Option Entries
  | entries, [] => change entries
  | entries, name :: key =>
    match entries.lookup name with
    | none => do
      let inner ← within change [] key
      return put entries name (table inner)
    | some (table inner) => do
      let inner ← within change inner key
      return put entries name (table inner)
    | some (array items) =>
      match items.getLast? with
      | some (table inner) => do
        let inner ← within change inner key
        return put entries name (array (items.dropLast ++ [table inner]))
      | _ => none
    | some _ => none

def opened (entries : Entries) (key : Key) : Option Entries := within some entries key

def defined (entries : Entries) (key : Key) (name : String) (v : Toml) : Option Entries :=
  within (fun inner => if (inner.lookup name).isSome then none else some (put inner name v))
    entries key

/-- Adds an empty table to the array under a name in the table of a key. -/
def appended (entries : Entries) (key : Key) (name : String) : Option Entries :=
  within (fun inner =>
    match inner.lookup name with
    | none => some (put inner name (array [table []]))
    | some (array items) => some (put inner name (array (items ++ [table []])))
    | some _ => none) entries key

/-- What is known of a key: it was made by a header or a dotted key and is not to be made again by
one, or it is the whole of a value and nothing below it can be changed. -/
inductive Mark where
  | declared (key : Key)
  | frozen (key : Key)
  deriving DecidableEq

def isDeclared (marks : List Mark) (key : Key) : Bool := marks.contains (.declared key)

/-- Whether a key is, or stands below, a whole value. -/
def isFrozen (marks : List Mark) (key : Key) : Bool :=
  key != [] && marks.any fun
    | .frozen k => k.isPrefixOf key
    | .declared _ => false

/-- Forgets what is known of a key and of all keys below. -/
def forget (marks : List Mark) (key : Key) : List Mark :=
  marks.filter fun
    | .frozen k | .declared k => !key.isPrefixOf k

end Toml

end ServerUi
