import ServerUi.Text.Marks
import ServerUi.Text.Pieces
import ServerUi.Text.Wide

/-! How many columns of a console a text takes, and lining up at tabs. A joiner makes one sign of
the characters around it, and a selector widens the character in front of it. -/

namespace ServerUi

def joiner : Char := '\u200d'

def emojiSelector : Char := '\ufe0f'

/-- The columns of a character: one, unless it is wide or a mark. -/
def columns (c : Char) : Nat :=
  if isMark c then 0 else if isWide c then 2 else 1

/-- The columns that a selector adds to the last character with columns. -/
def widening (last : Option Char) : Nat :=
  if last.any isWidened then 1 else 0

/-- The columns of a text behind a last character with columns. -/
def columnsBehind (last : Option Char) : List Char → Nat
  | [] => 0
  | [c] => if c = emojiSelector then widening last else columns c
  | c :: d :: rest =>
    if c = joiner then columnsBehind last rest
    else if c = emojiSelector then widening last + columnsBehind none (d :: rest)
    else if columns c = 0 then columnsBehind last (d :: rest)
    else columns c + columnsBehind (some c) (d :: rest)

def columnsOf (cs : List Char) : Nat := columnsBehind none cs

/-- A piece in front of a tab, with blanks up to the next multiple of eight columns; at least one
blank follows it. -/
def lined (piece : List Char) : List Char :=
  let field := piece ++ [' ']
  field ++ List.replicate ((8 - columnsOf field % 8) % 8) ' '

def linedUp : List (List Char) → List Char
  | [] => []
  | [piece] => piece
  | piece :: rest => lined piece ++ linedUp rest

def withoutTabs (line : List Char) : List Char := linedUp (pieces '\t' line)

end ServerUi
