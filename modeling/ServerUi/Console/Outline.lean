import ServerUi.Text.Folded
import ServerUi.Widget.Tree

/-! Drawing trees of labels as lines of a console. A line break inside a label goes on below the
first line of the label, and the lines that lead to later siblings pass by it. -/

namespace ServerUi

def consoleColumns : Nat := 4000

/-- The lines that a console shows of a text, folded at a width. -/
def shownLines (width : Nat) (s : String) : List String :=
  (pieces '\n' (withoutControls s).toList).flatMap fun line =>
    (folded width (withoutTabs line)).map String.ofList

/-- The lines of a label, the first with one guide and the others with another as long. -/
def guided (first next label : String) : List String :=
  match shownLines (consoleColumns - first.length) label with
  | [] => []
  | line :: rest => (first ++ line) :: rest.map (next ++ ·)

namespace Labels

mutual

/-- The lines of a tree whose own label is led in by `first`, and all below it by `next`. -/
def outline (first next : String) : Labels → List String
  | node label below => guided first next label ++ outlines next below

def outlines (lead : String) : List Labels → List String
  | [] => []
  | [t] => outline (lead ++ "└── ") (lead ++ "    ") t
  | t :: rest => outline (lead ++ "├── ") (lead ++ "│   ") t ++ outlines lead rest

end

end Labels

def Widget.outline (w : Widget) : List String := w.labels.outline "" ""

end ServerUi
