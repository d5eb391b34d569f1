import ServerUi.Proofs.Console.Exit
import ServerUi.Proofs.Document.Load
import ServerUi.Proofs.Render.Sound
import ServerUi.Proofs.Widget.Printed

/-! The text that is printed of a rendered document: a reader that knows the bare words gets back
what was printed, and only a number that such a word stands for keeps it out of the grammar. -/

namespace ServerUi

/-- The text of a rendering: one line without a tree, and one with a member a line otherwise. -/
def Rendering.printed (r : Rendering) : List Char :=
  r.json.write (if r.widget.isSome then .depth 0 else .line) ++ ['\n']

theorem Rendering.writable {P : Double → Prop} {r : Rendering} (h : ∀ w ∈ r.widget, w.Sound P) :
    Json.Writable P r.json := by
  have hwidget : Json.Writable P ((r.widget.map Widget.summary).getD .null) := by
    cases hw : r.widget with
    | none => exact .null
    | some w => exact (h w hw).writable
  have herrors : Json.Writable P (.arr (r.errors.map .str)) :=
    .arr (List.forall_mem_map.mpr fun s _ => .str s)
  refine .obj (by simp) (List.forall_mem_cons.mpr ⟨hwidget, ?_⟩)
  exact List.forall_mem_singleton.mpr herrors

end ServerUi
