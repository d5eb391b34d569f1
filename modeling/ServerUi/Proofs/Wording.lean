import ServerUi.Proofs.Builder.Laws
import ServerUi.Wording

/-! Laws of putting a log into words: records are told one after another, also those of reports that
follow one another. -/

namespace ServerUi

namespace Wording

variable (w : Wording)

theorem stop?_append (notices more : List Notice) :
    w.stop? (notices ++ more) = (w.stop? notices).or (w.stop? more) :=
  List.findSome?_append

theorem stop?_singleton (n : Notice) : w.stop? [n] = n.untold? w := by
  rw [stop?, List.findSome?_cons]
  cases n.untold? w <;> rfl

end Wording

namespace Report

theorem written_outcome (w : Wording) (r : Report α) :
    (r.written w).outcome = (w.stop? r.notices).elim r.outcome .error := rfl

theorem written_bind (w : Wording) (r : Report α) (f : α → Report β) :
    ((r >>= f).written w).outcome =
      (r.written w).outcome >>= fun a => ((f a).written w).outcome := by
  obtain ⟨notices, outcome⟩ := r
  simp only [written_outcome, bind_mk]
  cases outcome with
  | error fault => cases w.stop? notices <;> rfl
  | ok a =>
    dsimp only
    rw [w.stop?_append]
    cases w.stop? notices <;> rfl

end Report

end ServerUi
