import ServerUi.Text.Blank
import ServerUi.Text.Columns

/-! Folding a long line into lines of a given width. A line is broken behind blanks, and a word that
fits on no line is broken where a line is full. -/

namespace ServerUi

structure Cluster where
  chars : List Char
  width : Nat

namespace Cluster

/-- More characters that take some more columns. -/
def extend (x : Cluster) (chars : List Char) (more : Nat) : Cluster :=
  ⟨x.chars ++ chars, x.width + more⟩

/-- The clusters of a text behind one that is open: marks and selectors extend it, and a joiner
extends it by itself and the next character. -/
def behind (x : Cluster) (last : Option Char) : List Char → List Cluster
  | [] => [x]
  | [c] =>
    if c = emojiSelector then [x.extend [c] (widening last)]
    else if columns c = 0 then [x.extend [c] 0]
    else [x, ⟨[c], columns c⟩]
  | c :: d :: rest =>
    if c = joiner then behind (x.extend [c, d] 0) last rest
    else if c = emojiSelector then behind (x.extend [c] (widening last)) none (d :: rest)
    else if columns c = 0 then behind (x.extend [c] 0) last (d :: rest)
    else x :: behind ⟨[c], columns c⟩ (some c) (d :: rest)

def ofChars : List Char → List Cluster
  | [] => []
  | c :: rest =>
    if columns c = 0 then behind ⟨[c], 0⟩ none rest else behind ⟨[c], columns c⟩ (some c) rest

end Cluster

/-- Characters in front of the first line. -/
def withFront (front : List Char) : List (List Char) → List (List Char)
  | [] => [front]
  | line :: more => (front ++ line) :: more

/-- Breaks clusters where a line is full. Some columns of the first line are taken. -/
def broken (width taken : Nat) : List Cluster → List (List Char)
  | [] => [[]]
  | x :: rest =>
    if taken + x.width ≤ width then withFront x.chars (broken width (taken + x.width) rest)
    else [] :: withFront x.chars (broken width x.width rest)

/-- Words, each with the blanks behind it. Blanks in front of a word are a word of their own. -/
def blankedWords : List Char → List (List Char)
  | [] => []
  | c :: rest =>
    match blankedWords rest with
    | [] => [[c]]
    | word :: more =>
      if isBlank c && !(word.head?.any isBlank) then [c] :: word :: more else (c :: word) :: more

/-- Words, each with the blanks behind it, and the first one also with those in front of it. -/
def words (cs : List Char) : List (List Char) :=
  match blankedWords cs with
  | first :: second :: more =>
    if first.all isBlank then (first ++ second) :: more else first :: second :: more
  | words => words

/-- Fills lines with words behind a line begun. -/
def filled (width : Nat) (line : Cluster) : List (List Char) → List (List Char)
  | [] => [line.chars]
  | word :: rest =>
    let needed := columnsOf (withoutLastBlanks word)
    if line.width + needed ≤ width then filled width (line.extend word (columnsOf word)) rest
    else
      let begun := if line.chars.isEmpty then [] else [line.chars]
      let parts := if needed ≤ width then [word] else broken width 0 (Cluster.ofChars word)
      let last := parts.getLast?.getD []
      begun ++ parts.dropLast ++ filled width ⟨last, columnsOf last⟩ rest

/-- The front of a text up to a width. A blank stands for the half of a wide character. -/
def fitted (width : Nat) : List Cluster → List Char
  | [] => []
  | x :: rest =>
    if x.width ≤ width then x.chars ++ fitted (width - x.width) rest
    else List.replicate width ' '

/-- A line that a width holds. Blanks at its end go first, as many as there are characters too
many. -/
def cropped (width : Nat) (line : List Char) : List Char :=
  let blanks := line.length - (withoutLastBlanks line).length
  fitted width (Cluster.ofChars (line.take (line.length - min blanks (line.length - width))))

/-- The lines that a line of text takes at a width. -/
def folded (width : Nat) (line : List Char) : List (List Char) :=
  (if columnsOf line ≤ width then [line] else filled width ⟨[], 0⟩ (words line)).map
    (cropped width)

end ServerUi
