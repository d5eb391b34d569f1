import ServerUi.Report
import ServerUi.Widget.Basic

/-! What a builder does, as a program: it may write to the log, fail, ask for the identity of the
node, have parts of the node rendered, bind and write cells, and ask whether an image loads. -/

namespace ServerUi

inductive Hop where
  | member (key : String)
  | item (index : Nat)
  deriving DecidableEq

/-- Where a part of a node's config stands; the empty place is the config itself. -/
abbrev Place := List Hop

inductive Build (α : Type) where
  | done (a : α)
  | fail (fault : Fault)
  | note (n : Notice) (next : Build α)
  | key (place : Place) (next : String → Build α)
  | node (place : Place) (next : Option Widget → Build α)
  | children (place : Place) (next : List Widget → Build α)
  | child (place : Place) (field : String) (next : Option Widget → Build α)
  | bind (key : String) (initial : Json) (next : Cell → Build α)
  | write (cell : Cell) (value : Json) (next : Cell → Build α)
  | loads (source : ImageSource) (next : Bool → Build α)

namespace Build

def andThen : Build α → (α → Build β) → Build β
  | done a, f => f a
  | fail fault, _ => fail fault
  | note n next, f => note n (next.andThen f)
  | key place next, f => key place fun k => (next k).andThen f
  | node place next, f => node place fun w => (next w).andThen f
  | children place next, f => children place fun ws => (next ws).andThen f
  | child place field next, f => child place field fun w => (next w).andThen f
  | bind k v next, f => bind k v fun c => (next c).andThen f
  | write c v next, f => write c v fun c => (next c).andThen f
  | loads source next, f => loads source fun b => (next b).andThen f

instance : Monad Build where
  pure := done
  bind := andThen

def ofExcept : Except Fault α → Build α
  | .ok a => done a
  | .error fault => fail fault

/-- Writes the records of a report and goes on with its outcome. -/
def ofReport (r : Report α) : Build α := r.notices.foldr note (ofExcept r.outcome)

instance : MonadLift (Except Fault) Build := ⟨ofExcept⟩

instance : MonadLift Report Build := ⟨ofReport⟩

def ownKey : Build String := key [] done

def childrenAt (field : String) : Build (List Widget) := children [.member field] done

def childAt (field : String) : Build (Option Widget) := child [] field done

def bindCell (key : String) (initial : Json) : Build Cell := bind key initial done

def writeCell (cell : Cell) (value : Json) : Build Cell := write cell value done

/-- Whether an image loads; without a loader every image does. -/
def isLoadable (source : ImageSource) : Build Bool := loads source done

def log (n : Notice) : Build Unit := note n (done ())

end Build

/-- What a node type stands for: from a node's config to the widget, or to nothing to show. -/
abbrev Builder := Config → Build (Option Widget)

end ServerUi
