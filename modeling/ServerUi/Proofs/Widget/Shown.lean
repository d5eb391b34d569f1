import ServerUi.Proofs.Render.Document
import ServerUi.Proofs.Widget.Faithful

/-! Reading a printed summary again: its nodes, each in front of those below it, are the summaries of
the widgets of the walk, and its error nodes show the messages of the errors. -/

namespace ServerUi

namespace Json

/-- The values under `children`, of which there are none if it is missing. -/
def nodesBelow : Json → List Json
  | obj members => (Config.get members "children").items
  | _ => []

theorem sizeOf_nodesBelow_lt {u v : Json} (h : u ∈ v.nodesBelow) : sizeOf u < sizeOf v := by
  cases v with
  | obj members => exact Nat.lt_trans (sizeOf_item_lt h) (sizeOf_get_lt members "children")
  | _ => cases h

def shownNodes (v : Json) : List Json :=
  v :: v.nodesBelow.attach.flatMap fun u => shownNodes u.1
termination_by sizeOf v
decreasing_by exact sizeOf_nodesBelow_lt u.2

theorem shownNodes_eq (v : Json) : v.shownNodes = v :: v.nodesBelow.flatMap shownNodes := by
  rw [shownNodes, List.flatMap_subtype (g := shownNodes) fun _ _ => rfl, List.unattach_attach]

/-- What stands under `message` in a node of the kind of errors. -/
def errorShown? : Json → Option Json
  | obj members =>
    match Config.get members "kind" with
    | str "error" => some (Config.get members "message")
    | _ => none
  | _ => none

def errorsShown (v : Json) : List Json := v.shownNodes.filterMap errorShown?

end Json

namespace Widget

theorem walk_eq (w : Widget) : w.walk = w :: w.children.flatMap walk := by
  cases w with
  | leaf l => rfl
  | wrapper w child => cases child <;> simp [walk, children]
  | group g children => exact walk_group g children

/-- The second widget is the first one or stands somewhere below it. -/
inductive Holds : Widget → Widget → Prop where
  | self (w : Widget) : Holds w w
  | deeper {w c x : Widget} (hc : c ∈ w.children) (hx : Holds c x) : Holds w x

theorem mem_walk_iff {w x : Widget} : x ∈ w.walk ↔ w.Holds x := by
  constructor
  · intro h
    rw [walk_eq] at h
    rcases List.mem_cons.mp h with rfl | h
    · exact .self x
    · obtain ⟨c, hc, hx⟩ := List.mem_flatMap.mp h
      have := sizeOf_child_lt hc
      exact .deeper hc (mem_walk_iff.mp hx)
  · intro h
    induction h with
    | self w =>
      rw [walk_eq]
      exact List.mem_cons_self
    | @deeper w c x hc _ ih =>
      rw [walk_eq]
      exact List.mem_cons_of_mem _ (List.mem_flatMap.mpr ⟨c, hc, ih⟩)
termination_by sizeOf w

theorem errorMessage?_eq_some_iff {w : Widget} {message : String} :
    w.errorMessage? = some message ↔ ∃ frame, w = leaf (.error message frame) := by
  unfold errorMessage?
  split
  · simp
  · next hne => exact ⟨nofun, fun ⟨frame, h⟩ => absurd h (hne message frame)⟩

theorem errors_eq_nil_iff {w : Widget} :
    w.errors = [] ↔ ¬∃ message frame, w.Holds (leaf (.error message frame)) := by
  rw [errors, List.filterMap_eq_nil_iff]
  constructor
  · rintro h ⟨message, frame, hx⟩
    cases h _ (mem_walk_iff.mpr hx)
  · intro h x hx
    rw [Option.eq_none_iff_forall_ne_some]
    intro message hmessage
    obtain ⟨frame, rfl⟩ := errorMessage?_eq_some_iff.mp hmessage
    exact h ⟨message, frame, mem_walk_iff.mp hx⟩

theorem children_notMem_names (w : Widget) : "children" ∉ w.traits.map Prod.fst := by
  intro h
  exact (List.nodup_append.mp w.nodup_names).2.2 _ (List.mem_cons_of_mem _ h) _
    List.mem_cons_self rfl

/-- Besides its fields, only the value of its cell is among the properties of a widget. -/
theorem lookup_properties_of_notMem {w : Widget} {name : String}
    (h : name ∉ w.traits.map Prod.fst) (hvalue : name ∉ valueNames) :
    w.properties.lookup name = none := by
  have hnone := lookup_present_of_notMem h
  cases w with
  | leaf l =>
    have hshown : l.shown.lookup name = none := by
      simp only [valueNames, List.mem_cons, not_or] at hvalue
      cases l <;> simp [Leaf.shown, lookup_cons_ite, hvalue]
    rw [properties, Leaf.properties_eq, List.lookup_append, hshown, Option.or_none]
    exact hnone
  | wrapper w child =>
    rw [properties, Wrapper.properties_eq]
    exact hnone
  | group g children =>
    rw [properties, Group.properties_eq]
    exact hnone

theorem lookup_properties_children (w : Widget) : w.properties.lookup "children" = none :=
  lookup_properties_of_notMem w.children_notMem_names (by decide)

theorem summary_eq (w : Widget) :
    w.summary = .obj (("kind", .str w.kind) :: w.properties ++ member? "children"
      (if w.children.isEmpty then none else some (.arr (w.children.map summary)))) := by
  cases w with
  | leaf l => simp [summary, kind, properties, children, member?]
  | wrapper w child =>
    cases child <;> simp [summary, kind, properties, children, member?]
  | group g ws =>
    rw [summary, summaries_eq]
    rfl

theorem nodesBelow_summary (w : Widget) : w.summary.nodesBelow = w.children.map summary := by
  rw [summary_eq, Json.nodesBelow, Config.get, List.cons_append, List.lookup_cons,
    List.lookup_append, lookup_properties_children]
  cases w.children <;> rfl

theorem shownNodes_summary (w : Widget) : w.summary.shownNodes = w.walk.map summary := by
  rw [Json.shownNodes_eq, nodesBelow_summary, walk_eq, List.map_cons, List.flatMap_map,
    List.map_flatMap]
  congr 1
  refine List.flatMap_congr fun c hc => ?_
  have := sizeOf_child_lt hc
  exact shownNodes_summary c
termination_by sizeOf w

theorem errorMessage?_of_kind {w : Widget} (h : w.kind ≠ "error") : w.errorMessage? = none := by
  rw [Option.eq_none_iff_forall_ne_some]
  intro message hmessage
  obtain ⟨frame, rfl⟩ := errorMessage?_eq_some_iff.mp hmessage
  exact h rfl

theorem exists_error_of_kind {w : Widget} (h : w.kind = "error") :
    ∃ message frame, w = leaf (.error message frame) := by
  cases w with
  | leaf l =>
    cases l with
    | error message frame => exact ⟨message, frame, rfl⟩
    | _ => simp [kind, Leaf.kind] at h
  | wrapper w child => cases w <;> simp [kind, Wrapper.kind] at h
  | group g ws => rcases g with ⟨_ | _, main, cross⟩ | shrinkWrap <;> simp [kind, Group.kind] at h

theorem errorShown?_summary {w : Widget} (h : w.errorMessage? ≠ some "") :
    w.summary.errorShown? = w.errorMessage?.map .str := by
  by_cases hkind : w.kind = "error"
  · obtain ⟨message, frame, rfl⟩ := exists_error_of_kind hkind
    -- An empty message would be left out of the summary.
    have hmessage : message ≠ "" := fun hempty => h (congrArg some hempty)
    simp [summary, Json.errorShown?, Config.get, Leaf.kind, Leaf.properties, unlessDefault,
      member?, hmessage, errorMessage?, List.lookup_cons]
  · rw [errorMessage?_of_kind hkind, summary_eq, Json.errorShown?, Config.get, List.cons_append,
      List.lookup_cons, beq_self_eq_true]
    split
    · next heq => exact absurd (Json.str.inj heq) hkind
    · rfl

theorem errorsShown_summary {w : Widget} (h : ∀ x ∈ w.walk, x.errorMessage? ≠ some "") :
    w.summary.errorsShown = w.errors.map .str := by
  rw [Json.errorsShown, shownNodes_summary, List.filterMap_map, errors, List.map_filterMap]
  exact List.filterMap_congr fun x hx => errorShown?_summary (h x hx)

end Widget

end ServerUi
