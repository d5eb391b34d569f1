import ServerUi.Number.Double
import ServerUi.Style.Color

/-! Style values. A property that a document leaves open is `none` where these are used. -/

namespace ServerUi

/-- A closed choice among named values, under a title of its own. -/
class Choice (α : Type) where
  title : String
  all : List α
  name : α → String

inductive TextAlign where
  | left
  | right
  | center
  | justify
  | start
  | finish
  deriving DecidableEq

instance : Choice TextAlign where
  title := "TextAlign"
  all := [.left, .right, .center, .justify, .start, .finish]
  name
    | .left => "left"
    | .right => "right"
    | .center => "center"
    | .justify => "justify"
    | .start => "start"
    | .finish => "end"

inductive MainAlignment where
  | start
  | finish
  | center
  | spaceBetween
  | spaceAround
  | spaceEvenly
  deriving DecidableEq

instance : Choice MainAlignment where
  title := "MainAxisAlignment"
  all := [.start, .finish, .center, .spaceBetween, .spaceAround, .spaceEvenly]
  name
    | .start => "start"
    | .finish => "end"
    | .center => "center"
    | .spaceBetween => "spaceBetween"
    | .spaceAround => "spaceAround"
    | .spaceEvenly => "spaceEvenly"

inductive CrossAlignment where
  | start
  | finish
  | center
  | stretch
  | baseline
  deriving DecidableEq

instance : Choice CrossAlignment where
  title := "CrossAxisAlignment"
  all := [.start, .finish, .center, .stretch, .baseline]
  name
    | .start => "start"
    | .finish => "end"
    | .center => "center"
    | .stretch => "stretch"
    | .baseline => "baseline"

inductive BoxFit where
  | fill
  | contain
  | cover
  | fitWidth
  | fitHeight
  | none
  | scaleDown
  deriving DecidableEq

instance : Choice BoxFit where
  title := "BoxFit"
  all := [.fill, .contain, .cover, .fitWidth, .fitHeight, .none, .scaleDown]
  name
    | .fill => "fill"
    | .contain => "contain"
    | .cover => "cover"
    | .fitWidth => "fitWidth"
    | .fitHeight => "fitHeight"
    | .none => "none"
    | .scaleDown => "scaleDown"

inductive FontStyle where
  | normal
  | italic
  deriving DecidableEq

instance : Choice FontStyle where
  title := "FontStyle"
  all := [.normal, .italic]
  name
    | .normal => "normal"
    | .italic => "italic"

/-- One of the nine font weights 100, 200, … 900. -/
structure FontWeight where
  step : Fin 9
  deriving DecidableEq

namespace FontWeight

def value (w : FontWeight) : Nat := 100 * (w.step + 1)

def normal : FontWeight := ⟨3⟩

def bold : FontWeight := ⟨6⟩

def ofInt? (n : Int) : Option FontWeight :=
  if h : n % 100 = 0 ∧ 100 ≤ n ∧ n ≤ 900 then some ⟨⟨(n / 100 - 1).toNat, by omega⟩⟩ else none

end FontWeight

structure EdgeInsets where
  left : Double
  top : Double
  right : Double
  bottom : Double
  deriving DecidableEq

namespace EdgeInsets

def all (x : Double) : EdgeInsets := ⟨x, x, x, x⟩

def zero : EdgeInsets := all .zero

def sameNumbers (e f : EdgeInsets) : Bool :=
  e.left.sameNumber f.left && e.top.sameNumber f.top && e.right.sameNumber f.right &&
    e.bottom.sameNumber f.bottom

def isUniform (e : EdgeInsets) : Bool :=
  e.left.sameNumber e.top && e.top.sameNumber e.right && e.right.sameNumber e.bottom

end EdgeInsets

/-- Attributes of text, each of which may be left open. -/
structure TextStyle where
  size : Option Double
  color : Option Color
  weight : Option FontWeight
  slant : Option FontStyle
  deriving DecidableEq

end ServerUi
