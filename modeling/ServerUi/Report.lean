import ServerUi.Notice

/-! Computations that write to the log and may end in a fault. What was written before a fault
stays written. -/

namespace ServerUi

structure Report (α : Type) where
  notices : List Notice
  outcome : Except Fault α

namespace Report

def bind (r : Report α) (f : α → Report β) : Report β :=
  match r.outcome with
  | .error fault => ⟨r.notices, .error fault⟩
  | .ok a => ⟨r.notices ++ (f a).notices, (f a).outcome⟩

instance : Monad Report where
  pure a := ⟨[], .ok a⟩
  bind := bind

def note (n : Notice) : Report Unit := ⟨[n], .ok ()⟩

def ofExcept (outcome : Except Fault α) : Report α := ⟨[], outcome⟩

instance : MonadLift (Except Fault) Report := ⟨ofExcept⟩

/-- No value, and a record of why, which is still to be told. -/
def without (n : Notice) : Report (Option α) := ⟨[n], .ok none⟩

end Report

end ServerUi
