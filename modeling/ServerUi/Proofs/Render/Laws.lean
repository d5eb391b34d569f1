import Mathlib.Tactic.Common
import ServerUi.Render.Node

/-! Laws of passes and of reports as monads, and what a step down to a node comes to. -/

namespace ServerUi

namespace Pass

theorem pure_run (a : α) (path : Path) (s : Store) :
    (pure a : Pass α) path s = ⟨a, path, s, []⟩ := rfl

theorem bind_run (p : Pass α) (f : α → Pass β) (path : Path) (s : Store) :
    (p >>= f) path s =
      ⟨(f (p path s).value (p path s).path (p path s).store).value,
        (f (p path s).value (p path s).path (p path s).store).path,
        (f (p path s).value (p path s).path (p path s).store).store,
        (p path s).events ++ (f (p path s).value (p path s).path (p path s).store).events⟩ := rfl

theorem emit_run (events : List Event) (path : Path) (s : Store) :
    emit events path s = ⟨(), path, s, events⟩ := rfl

theorem here_run (path : Path) (s : Store) : here path s = ⟨path, path, s, []⟩ := rfl

theorem under_run (segment : String) (p : Pass α) (path : Path) (s : Store) :
    p.under segment path s =
      ⟨(p (path ++ [segment]) s).value, (p (path ++ [segment]) s).path.dropLast,
        (p (path ++ [segment]) s).store, (p (path ++ [segment]) s).events⟩ := rfl

theorem id_map_run (p : Pass α) : id <$> p = p := by
  funext path s
  exact congrArg (Outcome.mk _ _ _) (List.append_nil (p path s).events)

theorem bind_assoc_run (p : Pass α) (f : α → Pass β) (g : β → Pass γ) :
    p >>= f >>= g = p >>= fun a => f a >>= g := by
  funext path s
  simp only [bind_run, List.append_assoc]

instance : LawfulMonad Pass :=
  LawfulMonad.mk' Pass id_map_run (fun _ _ => rfl) bind_assoc_run

end Pass

theorem reportError_run (error : NodeError) (key : Path → String) (path : Path) (s : Store) :
    reportError error key path s =
      ⟨some (.error error.message), path, s, [.note (.node error (key path))]⟩ := rfl

/-- What stands in a tree for a node whose builder ended so. -/
def inPlace : Except Fault (Option Widget) → Option Widget
  | .ok w => w
  | .error fault => some (.error (NodeError.failed fault).message)

def lastEvents (path : Path) (key : Path → String) : Except Fault (Option Widget) → List Event
  | .ok w => [.finished path w]
  | .error fault => [.note (.node (.failed fault) (key path)), .note .builderTraceback]

theorem contained_run (tag : String) (key : Path → String)
    (build : Pass (Except Fault (Option Widget))) (path : Path) (s : Store) :
    contained tag key build path s =
      let below := build (path ++ [tag]) s
      ⟨inPlace below.value, below.path.dropLast, below.store,
        .built (path ++ [tag]) (key (path ++ [tag])) :: below.events ++
          lastEvents below.path key below.value⟩ := by
  simp only [contained, Pass.under_run, Pass.bind_run, Pass.here_run, Pass.emit_run]
  cases (build (path ++ [tag]) s).value <;>
    simp only [Pass.bind_run, Pass.here_run, Pass.emit_run, Pass.pure_run, reportError_run, inPlace,
      lastEvents, List.nil_append, List.append_nil, List.cons_append]

def Host.nodePart (host : Host) (config : Config) : Part :=
  .mk (.obj config) (pure none) [] (partedMembers host config)

theorem Host.render_node {host : Host} {config : Config} {tag : String} {b : Builder}
    (htag : config.name? "type" = some tag) (hb : host.registry.lookup tag = some b) :
    host.render (.obj config) =
      contained tag (identity config) ((b config).run host.images (host.nodePart config)) := by
  change buildNode host config (partedMembers host config) = _
  simp only [buildNode, htag, hb, nodePart]

theorem Host.present_value (host : Host) (document : Json) (s : Store) :
    (host.present document s).value =
      ⟨(host.render document [] s).value,
        (host.render document [] s).value.elim [] Widget.errors⟩ := by
  rw [present, presentation, Pass.bind_run]
  cases (host.render document [] s).value <;> rfl

end ServerUi
