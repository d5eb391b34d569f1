import ServerUi.Proofs.Console.Order
import ServerUi.Proofs.Except
import ServerUi.Proofs.Render.Visited
import ServerUi.Proofs.Widget.Shown

/-! The code that rendering a file ends with, and the errors that are printed with it. -/

namespace ServerUi

section Messages

theorem append_ne_empty {s : String} (h : s ≠ "") (t : String) : s ++ t ≠ "" :=
  fun happend => h (String.append_eq_empty_iff.mp happend).1

theorem NodeError.message_ne_empty (e : NodeError) : e.message ≠ "" := by
  cases e with
  | malformed node => exact append_ne_empty (by decide) node.typeName
  | missingType => decide
  | unknownType tag => exact append_ne_empty (by decide) tag
  | failed fault => exact append_ne_empty (by decide) fault.details

theorem message_of_mem_marks {images : Option (ImageSource → Report Bool)} {v : Json} {m : Mark}
    (h : m ∈ marks images v) : m.message ≠ some "" := by
  unfold marks at h
  split at h
  · next e _ =>
    rw [List.mem_singleton.mp h]
    exact fun hempty => e.message_ne_empty (Option.some.inj hempty)
  · cases h
  · next tag _ =>
    have hnone : ∀ m ∈ ownMarks (refused images v.config) tag, m.message = none := by
      unfold ownMarks
      split
      · simp
      · split <;> simp
    rw [hnone m h]
    exact nofun

/-- No error in a rendered tree is without a message. -/
theorem present_message_ne_empty (images : Option (ImageSource → Report Bool)) (document : Json)
    (s : Store) {w : Widget}
    (hw : ((Host.standard images).present document s).value.widget = some w) :
    ∀ x ∈ w.walk, x.errorMessage? ≠ some "" := by
  intro x hx
  -- The marks of the tree are those of the nodes that were visited.
  have hmarks : w.walk.map Widget.mark = (visited images document).flatMap (marks images) := by
    have hvalue : ((Host.standard images).render document [] s).value = some w := by
      rw [Host.present_value] at hw
      exact hw
    have hwalked : marksOf ((Host.standard images).render document [] s).value.toList = _ :=
      walked document [] s
    rw [hvalue] at hwalked
    rw [← hwalked]
    exact (List.append_nil _).symm
  have hmem : x.mark ∈ (visited images document).flatMap (marks images) := by
    rw [← hmarks]
    exact List.mem_map_of_mem hx
  obtain ⟨v, -, hv⟩ := List.mem_flatMap.mp hmem
  exact message_of_mem_marks hv

end Messages

namespace RenderOrder

/-- The settings or the document of an order cannot be loaded. -/
def Unloaded (order : RenderOrder) (fs : FileSystem) : Prop :=
  (∃ source flaw, Settings.load fs order.settings = .error (.flawed source flaw)) ∨
    ∃ source flaw, Document.ofFile fs order.document = .error (.flawed source flaw)

/-- The settings and the document of an order are loaded, and the document is rendered to a tree. -/
def Renders (order : RenderOrder) (fs : FileSystem) (tree : Option Widget) : Prop :=
  ∃ settings members host, Settings.load fs order.settings = .ok settings ∧
    Document.ofFile fs order.document = .ok members ∧ settings.host fs = .ok host ∧
    tree = (host.present (.obj members) settings.store).value.widget

end RenderOrder

section Rendered

variable {fs : FileSystem} {order : RenderOrder} {tree : Option Widget}

def failures (tree : Option Widget) : List String := tree.elim [] Widget.errors

theorem host_standard {settings : Settings} {host : Host} (h : settings.host fs = .ok host) :
    ∃ images, host = Host.standard images := by
  obtain ⟨folder, -, hhost⟩ := bind_eq_ok_iff.mp h
  exact ⟨_, (Except.ok.inj hhost).symm⟩

theorem RenderOrder.Renders.errorsShown (h : order.Renders fs tree) :
    ((tree.map Widget.summary).getD .null).errorsShown = (failures tree).map .str := by
  obtain ⟨settings, members, host, -, -, hhost, htree⟩ := h
  obtain ⟨images, rfl⟩ := host_standard hhost
  cases tree with
  | none =>
    rw [Option.map_none, Option.getD_none, Json.errorsShown, Json.shownNodes_eq]
    rfl
  | some w => exact Widget.errorsShown_summary (present_message_ne_empty images _ _ htree.symm)

/-- Without a crash an order is either not loaded, or its document is rendered. -/
theorem Run.ofOrder_cases {environment : Option String}
    (hrun : ∀ cause, (Run.ofOrder fs environment order).ending ≠ .crash cause) :
    (order.Unloaded fs ∧ (Run.ofOrder fs environment order).ending = .exit 1) ∨
    ¬order.Unloaded fs ∧ ∃ tree, order.Renders fs tree ∧
      (Run.ofOrder fs environment order).ending =
        .exit (Rendering.exitCode ⟨tree, failures tree⟩ order) ∧
      (Run.ofOrder fs environment order).display =
        Rendering.display ⟨tree, failures tree⟩ order := by
  cases hsettings : Settings.load fs order.settings with
  | error e =>
    have hend : (ofOrder fs environment order).ending = (LoadError.settings e).ending := by
      rw [ofOrder, hsettings]
      rfl
    cases e with
    | flawed source flaw => exact .inl ⟨.inl ⟨source, flaw, hsettings⟩, hend⟩
    | encoding => exact absurd hend (hrun _)
    | longInteger => exact absurd hend (hrun _)
    | tooDeep => exact absurd hend (hrun _)
    | unreadable => exact absurd hend (hrun _)
  | ok settings =>
    cases hdocument : Document.ofFile fs order.document with
    | error e =>
      have hend := congrArg Run.ending (ofOrder_document_error environment hsettings hdocument)
      cases e with
      | flawed source flaw => exact .inl ⟨.inr ⟨source, flaw, hdocument⟩, hend⟩
      | nullCharacter => exact absurd hend (hrun _)
      | longInteger => exact absurd hend (hrun _)
    | ok members =>
      have hloaded : ¬order.Unloaded fs := by
        rintro (⟨source, flaw, h⟩ | ⟨source, flaw, h⟩)
        · cases hsettings.symm.trans h
        · cases hdocument.symm.trans h
      obtain (hassets | hassets) | ⟨host, hhost, hrendered⟩ :=
        ofOrder_document_ok environment hsettings hdocument
      · exact absurd hassets (hrun _)
      · exact absurd hassets (hrun _)
      have hvalue : (host.present (.obj members) settings.store).value = ⟨_, failures _⟩ :=
        host.present_value (.obj members) settings.store
      refine .inr ⟨hloaded, _, ⟨settings, members, host, hsettings, hdocument, hhost, rfl⟩, ?_, ?_⟩
      · rw [hrendered, ofRendering, hvalue]
      · rw [hrendered, ofRendering, hvalue]

theorem Run.ending_json (environment : Option String) (json : Bool) :
    (Run.ofOrder fs environment { order with json }).ending =
      (Run.ofOrder fs environment order).ending := by
  rw [ofOrder, ofOrder]
  cases Settings.load fs order.settings with
  | error e => rfl
  | ok settings =>
    have hload : RenderOrder.load { order with json } fs settings = order.load fs settings := rfl
    dsimp only
    rw [hload]
    cases order.load fs settings with
    | error e => rfl
    | ok loaded => rfl

/-- An error stands somewhere in the tree. -/
def Failing (tree : Option Widget) : Prop :=
  ∃ w ∈ tree, ∃ message frame, w.Holds (.leaf (.error message frame))

theorem failures_ne_nil_iff : failures tree ≠ [] ↔ Failing tree := by
  cases tree with
  | none => simp [failures, Failing]
  | some w =>
    rw [failures, Option.elim_some, ne_eq, Widget.errors_eq_nil_iff, not_not, Failing]
    simp

theorem exitCode_of_failing (h : order.strict = true ∧ Failing tree) :
    Rendering.exitCode ⟨tree, failures tree⟩ order = 2 := by
  have hne := failures_ne_nil_iff.mpr h.2
  rw [Rendering.exitCode, h.1]
  simp [hne]

theorem exitCode_of_not_failing (h : ¬(order.strict = true ∧ Failing tree)) :
    Rendering.exitCode ⟨tree, failures tree⟩ order = 0 := by
  rw [← failures_ne_nil_iff, not_and, not_not] at h
  rw [Rendering.exitCode]
  cases hstrict : order.strict with
  | false => rfl
  | true =>
    rw [h hstrict]
    rfl

/-- The line that counts errors, behind an empty one, unless there are none. -/
def countLines (errors : List Json) : List String :=
  if errors = [] then [] else ["", s!"{errors.length} inline error node(s)"]

theorem errorLines_eq (tree : Option Widget) :
    Rendering.errorLines ⟨tree, failures tree⟩ = countLines ((failures tree).map .str) := by
  rw [Rendering.errorLines, countLines, List.length_map]
  cases failures tree <;> rfl

/-- What is displayed of a tree and a list of errors. -/
def treeDisplay (order : RenderOrder) (tree : Option Widget) (errors : List Json) : Display :=
  let printed := Json.obj
    [("widget", (tree.map Widget.summary).getD .null), ("errors", .arr errors)]
  match tree, order.json with
  | none, true => .text (printed.line ++ "\n")
  | some _, true => .text (printed.indented ++ "\n")
  | none, false => .fallback
  | some w, false =>
    .text (linesText
      (shownLines consoleColumns order.document.text ++ w.outline ++ countLines errors))

theorem lines_singleton (line : String) : Display.lines [line] = .text (line ++ "\n") :=
  congrArg Display.text String.empty_append

theorem display_eq (order : RenderOrder) (tree : Option Widget) :
    Rendering.display ⟨tree, failures tree⟩ order =
      treeDisplay order tree ((failures tree).map .str) := by
  unfold treeDisplay Rendering.display
  rw [← errorLines_eq]
  cases tree <;> cases order.json
  · rfl
  · exact lines_singleton _
  · rfl
  · exact lines_singleton _

end Rendered

/-- The code is 1 if something cannot be loaded, else 2 if errors are asked for and the tree holds
one at any depth, else 0. The errors that are printed, or counted, are the messages of the error
nodes in the printed summary, from the first to the last. -/
theorem render_exit (fs : FileSystem) (environment : Option String) (order : RenderOrder)
    (hrun : ∀ cause, (Run.ofRequest fs environment (.render order)).ending ≠ .crash cause) :
    let run := Run.ofRequest fs environment (.render order)
    (run.ending = .exit 1 ↔ order.Unloaded fs) ∧
    (¬order.Unloaded fs → ∃ tree, order.Renders fs tree ∧
      (run.ending = .exit 2 ↔ order.strict = true ∧ Failing tree) ∧
      (run.ending = .exit 0 ↔ ¬(order.strict = true ∧ Failing tree)) ∧
      run.display =
        treeDisplay order tree ((tree.map Widget.summary).getD .null).errorsShown) ∧
    ∀ json, (Run.ofRequest fs environment (.render { order with json })).ending = run.ending := by
  intro run
  have hcases := Run.ofOrder_cases hrun
  refine ⟨?_, fun hloaded => ?_, Run.ending_json environment⟩
  · obtain ⟨hunloaded, hend⟩ | ⟨hloaded, tree, -, hend, -⟩ := hcases
    · exact iff_of_true hend hunloaded
    · refine iff_of_false (fun hone => ?_) hloaded
      have hcode := Ending.exit.inj (hend.symm.trans hone)
      by_cases hfailing : order.strict = true ∧ Failing tree
      · cases (exitCode_of_failing hfailing).symm.trans hcode
      · cases (exitCode_of_not_failing hfailing).symm.trans hcode
  obtain ⟨hunloaded, -⟩ | ⟨-, tree, hrenders, hend, hdisplay⟩ := hcases
  · exact absurd hunloaded hloaded
  have hend' : run.ending = .exit (Rendering.exitCode ⟨tree, failures tree⟩ order) := hend
  have hdisplay' : run.display =
      treeDisplay order tree ((tree.map Widget.summary).getD .null).errorsShown := by
    rw [hrenders.errorsShown]
    exact hdisplay.trans (display_eq order tree)
  refine ⟨tree, hrenders, ?_, ?_, hdisplay'⟩
  all_goals
    rw [hend', Ending.exit.injEq]
    by_cases hfailing : order.strict = true ∧ Failing tree
  · exact iff_of_true (exitCode_of_failing hfailing) hfailing
  · rw [exitCode_of_not_failing hfailing]
    exact iff_of_false (by decide) hfailing
  · rw [exitCode_of_failing hfailing]
    exact iff_of_false (by decide) (not_not_intro hfailing)
  · exact iff_of_true (exitCode_of_not_failing hfailing) hfailing

/-- A directory with a document that is an empty object. -/
def emptyProject : FileSystem where
  root := .directory [("ui.json", .file [0x7b, 0x7d])]
  cwd := []
  limits := .unlimited

theorem render_exit_strict :
    let order : RenderOrder := ⟨⟨.relative, ["ui.json"]⟩, none, true, true⟩
    (Run.ofRequest emptyProject none (.render order)).ending = .exit 2 ∧
    ∃ tree, order.Renders emptyProject tree ∧ Failing tree := by
  intro order
  have hend : (Run.ofRequest emptyProject none (.render order)).ending = .exit 2 := by
    decide +kernel
  have hrun : ∀ cause, (Run.ofRequest emptyProject none (.render order)).ending ≠ .crash cause := by
    intro cause hcrash
    cases hend.symm.trans hcrash
  obtain ⟨hone, hloaded, -⟩ := render_exit emptyProject none order hrun
  have hunloaded : ¬order.Unloaded emptyProject := by
    rw [← hone, hend]
    decide
  obtain ⟨tree, hrenders, htwo, -⟩ := hloaded hunloaded
  exact ⟨hend, tree, hrenders, (htwo.mp hend).2⟩

end ServerUi
