import Mathlib.Logic.Relation
import ServerUi.Proofs.Builder.Registry
import ServerUi.Proofs.Except
import ServerUi.Proofs.Render.Kept
import ServerUi.Proofs.Session.History

/-! Dropdowns through whatever a host does with a session. Each shows one of its options when it is
built, though the store may hand it anything, and a change only ever selects another of them. -/

namespace ServerUi

/-- A dropdown that is changed still shows one of its options. -/
theorem Leaf.change_dropdown {options : List String} {label : Option String} {cell : Option Cell}
    (h : ∃ choice ∈ options, selectedValue options cell = .str choice) (v : Json) (s : Store) :
    ∃ cell', ((Leaf.dropdown options label cell).change v s).1 = .dropdown options label cell' ∧
      ∃ choice ∈ options, selectedValue options cell' = .str choice := by
  cases cell with
  | none => exact ⟨none, rfl, h⟩
  | some cell =>
    cases v with
    | str choice =>
      by_cases hchoice : options.contains choice = true
      · refine ⟨some ⟨cell.key, .str choice⟩, ?_, choice, List.contains_iff_mem.mp hchoice, rfl⟩
        rw [Leaf.change, if_pos hchoice]
        rfl
      · refine ⟨some cell, ?_, h⟩
        rw [Leaf.change, if_neg hchoice]
    | _ => exact ⟨some cell, rfl, h⟩

theorem Leaf.Chosen.change {l : Leaf} (h : l.Chosen) (v : Json) (s : Store) :
    (l.change v s).1.Chosen := by
  cases l with
  | dropdown options label cell =>
    obtain ⟨cell', hchange, hchosen⟩ := Leaf.change_dropdown h v s
    rw [hchange]
    exact hchosen
  | checkbox label cell => cases cell <;> trivial
  | _ => trivial

/-- A value that is no option is only logged. -/
theorem Leaf.change_refused {options : List String} {v : Json}
    (h : Builder.isOption options v = false) (label : Option String) (cell : Option Cell)
    (s : Store) :
    ∃ notices : List Notice, (Leaf.dropdown options label cell).change v s =
      (.dropdown options label cell, s, notices.map .note) := by
  cases cell with
  | none => exact ⟨[], rfl⟩
  | some cell =>
    refine ⟨[.optionUnknown label v], ?_⟩
    cases v with
    | str choice =>
      have hchoice : options.contains choice = false := h
      rw [Leaf.change, hchoice, if_neg Bool.false_ne_true]
      rfl
    | _ => rfl

/-- The tree has only dropdowns with options, each of which shows one of them. -/
def Widget.Choosing (w : Widget) : Prop :=
  ∀ options label cell, .leaf (.dropdown options label cell) ∈ w.walk →
    options ≠ [] ∧ ∃ choice ∈ options, selectedValue options cell = .str choice

theorem Widget.choosing_of_allLeaves {w : Widget} (h : w.AllLeaves Leaf.Chosen) : w.Choosing := by
  intro options label cell hmem
  obtain ⟨choice, hchoice, hselected⟩ := h _ hmem
  exact ⟨List.ne_nil_of_mem hchoice, choice, hchoice, hselected⟩

namespace Registry.Keeps

variable {P : Leaf → Prop} {r : Registry} (h : r.Keeps P)

include h

theorem insert {b : Builder} (hb : b.Keeps P) (tag : String) : (r.insert tag b).Keeps P := by
  intro k c hc
  rw [lookup_insert] at hc
  split at hc
  · exact Option.some.inj hc ▸ hb
  · exact h k c hc

theorem erase (tag : String) : (r.erase tag).Keeps P := by
  intro k c hc
  rw [lookup_erase] at hc
  split at hc
  · cases hc
  · exact h k c hc

end Registry.Keeps

namespace Session

/-- One thing that a host does with a session; what is refused changes nothing. A builder that it
registers may make any widgets but dropdowns that show none of their options. -/
inductive Step : Session → Session → Prop where
  | render (x : Session) (name : String) (node : Json) : Step x (x.render name node).2
  | renderUnder (x : Session) (name : String) (config : Json) (field : String) :
    Step x (x.renderUnder name config field).2
  | renderEach (x : Session) (items : Json) : Step x (x.renderEach items).2
  | change {x y : Session} {name : String} {place : Nat} {v : Json} {logged : Logged Widget}
    (h : x.change name place v = .ok (logged, y)) : Step x y
  | press {x y : Session} {name : String} {place : Nat} {logged : Logged Shown}
    (h : x.press name place = .ok (logged, y)) : Step x y
  | dispatch (x : Session) (action : Json) : Step x (x.dispatch action).2
  | register (x : Session) (tag : Json) {builder : Option Builder}
    (h : ∀ b ∈ builder, b.Keeps Leaf.Chosen) : Step x (x.register tag builder).2
  | unregister (x : Session) (tag : String) : Step x (x.unregister tag).2
  | registerAction (x : Session) (kind : String) (model : ActionModel) (handler : Handler) :
    Step x (x.registerAction kind model handler)
  | bind (x : Session) (name key : String) (initial : Json) : Step x (x.bind name key initial).2
  | set {x y : Session} {name : String} {v : Json} {logged : Logged Cell}
    (h : x.set name v = .ok (logged, y)) : Step x y
  | subscribe {x y : Session} (h : x.subscribe = .ok y) : Step x y
  | clear {x y : Session} (h : x.clear = .ok y) : Step x y

/-- What a host can do with a session. -/
abbrev Reaches : Session → Session → Prop := Relation.ReflTransGen Step

/-- All dropdowns of kept trees show one of their options, and no builder makes others. -/
structure Choosing (x : Session) : Prop where
  builders : x.host.registry.Keeps Leaf.Chosen
  trees : ∀ entry ∈ x.trees, Shows Leaf.Chosen entry.2

theorem choosing_start {host : Host} (h : host.registry.Keeps Leaf.Chosen) (store : Store)
    (snackbar : Option (Custom String)) : (Session.start host store snackbar).Choosing :=
  ⟨h, fun _ hentry => absurd hentry List.not_mem_nil⟩

theorem forall_mem_keep {Q : α → Prop} {entries : List (String × α)}
    (h : ∀ entry ∈ entries, Q entry.2) (name : String) {a : α} (ha : Q a) :
    ∀ entry ∈ keep entries name a, Q entry.2 := by
  refine List.forall_mem_cons.mpr ⟨ha, fun entry hentry => ?_⟩
  exact h entry (List.mem_filter.mp hentry).1

theorem exists_tree {x : Session} {name : String} {place : Nat} {w : Widget}
    (h : x.widget name place = .ok w) :
    ∃ tree, x.trees.lookup name = some (some tree) ∧ tree.walk[place]? = some w := by
  obtain ⟨ws, hws, hplace⟩ := bind_eq_ok_iff.mp h
  have hw : ws[place]? = some w := by
    split at hplace
    · cases hplace
    · next v hv =>
      obtain rfl := Except.ok.inj hplace
      exact hv
  unfold widgets at hws
  rcases hlookup : x.trees.lookup name with _ | _ | tree <;> rw [hlookup] at hws <;> cases hws
  · cases hw
  · exact ⟨tree, rfl, hw⟩

theorem error_chosen (message : String) (frame : ErrorFrame) :
    (Leaf.error message frame).Chosen := trivial

namespace Choosing

variable {x y : Session}

theorem render_keeps (h : x.Choosing) (node : Json) :
    (x.host.render node).Keeps Leaf.Chosen (Shows Leaf.Chosen) :=
  (Host.parted_keeps h.builders error_chosen node).render

theorem leaf (h : x.Choosing) {name : String} {place : Nat} {l : Leaf}
    (hl : x.widget name place = .ok (.leaf l)) : l.Chosen := by
  obtain ⟨tree, htree, hplace⟩ := exists_tree hl
  exact h.trees _ (mem_of_lookup htree) tree rfl l (List.mem_of_getElem? hplace)

theorem changeLeaf (h : x.Choosing) {name : String} {place : Nat} {l : Leaf}
    (hl : x.widget name place = .ok (.leaf l)) (v : Json) :
    (x.changeLeaf name place v l).2.Choosing := by
  obtain ⟨tree, htree, -⟩ := exists_tree hl
  refine ⟨h.builders, forall_mem_keep h.trees name ?_⟩
  have hshown := h.trees _ (mem_of_lookup htree) tree rfl
  rw [htree]
  exact .some (Widget.changeAt_allLeaves (fun _ _ => (h.leaf hl).change v x.store) place hshown)

theorem register (h : x.Choosing) (tag : Json) {builder : Option Builder}
    (hbuilder : ∀ b ∈ builder, b.Keeps Leaf.Chosen) : (x.register tag builder).2.Choosing := by
  unfold Session.register Registry.register
  split
  · exact h
  · next registry notices hregister =>
    split at hregister
    · cases hregister
    · next name b _ =>
      obtain ⟨rfl, rfl⟩ := Prod.mk.inj (Except.ok.inj hregister)
      exact ⟨h.builders.insert (hbuilder b rfl) name, h.trees⟩
    · cases hregister
    · cases hregister

theorem step (h : x.Choosing) (hstep : Step x y) : y.Choosing := by
  cases hstep with
  | render name node =>
    have hshown := (h.render_keeps node).value x.path x.store
    exact ⟨h.builders, forall_mem_keep h.trees name hshown⟩
  | renderUnder name config field =>
    have hparts := Host.parted_keeps h.builders error_chosen config
    have hshown := (renderMember_keeps hparts field).value x.path x.store
    exact ⟨h.builders, forall_mem_keep h.trees name hshown⟩
  | renderEach items => exact ⟨h.builders, h.trees⟩
  | change hchange =>
    rcases change_cases x _ _ _ with ⟨refusal, hrefused, -⟩ | ⟨l, hl, -, hchanged⟩
    · cases hchange.symm.trans hrefused
    · obtain ⟨-, rfl⟩ := Prod.mk.inj (Except.ok.inj (hchange.symm.trans hchanged))
      exact h.changeLeaf hl _
  | press hpress =>
    obtain ⟨w, -, hpress⟩ := bind_eq_ok_iff.mp hpress
    split at hpress
    · cases hpress
      exact ⟨h.builders, h.trees⟩
    · cases hpress
      exact h
    · cases hpress
  | dispatch action => exact ⟨h.builders, h.trees⟩
  | register tag hbuilder => exact h.register tag hbuilder
  | unregister tag => exact ⟨h.builders.erase tag, h.trees⟩
  | registerAction kind model handler => exact ⟨h.builders, h.trees⟩
  | bind name key initial => exact ⟨h.builders, h.trees⟩
  | set hset =>
    obtain ⟨cell, -, hset⟩ := bind_eq_ok_iff.mp hset
    cases hset
    exact ⟨h.builders, h.trees⟩
  | subscribe hsubscribe =>
    unfold Session.subscribe at hsubscribe
    split at hsubscribe <;> cases hsubscribe
    exact ⟨h.builders, h.trees⟩
  | clear hclear =>
    unfold Session.clear at hclear
    split at hclear <;> cases hclear
    exact ⟨h.builders, h.trees⟩

theorem reaches (h : x.Choosing) (hreach : Reaches x y) : y.Choosing := by
  induction hreach with
  | refl => exact h
  | tail _ hstep ih => exact ih.step hstep

end Choosing

/-- A value that is no option is refused, and the session stays as it is. -/
theorem change_option_unknown {x : Session} {name : String} {place : Nat} {options : List String}
    {label : Option String} {cell : Option Cell}
    (hl : x.widget name place = .ok (.leaf (.dropdown options label cell))) {v : Json}
    (hv : Builder.isOption options v = false) :
    ∃ logged y, x.change name place v = .ok (logged, y) ∧
      logged.result = .leaf (.dropdown options label cell) ∧ y.store = x.store ∧
      y.heard = x.heard ∧ y.cells = x.cells ∧
      ∀ other, y.trees.lookup other = x.trees.lookup other := by
  obtain ⟨notices, hrefused⟩ := Leaf.change_refused hv label cell x.store
  obtain ⟨tree, htree, hplace⟩ := exists_tree hl
  have hchange : x.change name place v =
      .ok (x.changeLeaf name place v (.dropdown options label cell)) := by
    rw [change, hl]
    rfl
  have hsame : tree.changeAt (fun _ => .dropdown options label cell) place = tree :=
    Widget.changeAt_same rfl hplace
  rw [changeLeaf, hrefused, htree] at hchange
  dsimp only at hchange
  rw [Option.join_some, Option.map_some, hsame] at hchange
  refine ⟨_, _, hchange, rfl, rfl, ?_, rfl, fun other => ?_⟩
  · change x.heard ++ List.flatMap _ ((notices.map Event.note).filterMap Event.change?) = x.heard
    rw [change?_notes, List.flatMap_nil, List.append_nil]
  · change (keep x.trees name (some tree)).lookup other = x.trees.lookup other
    rw [lookup_keep]
    split
    · next hother => rw [hother, htree]
    · rfl

end Session

/-- Whatever a host has done with a session, with either store and any values in it, every dropdown
of a kept tree shows one of its options, and so does every dropdown that is built next, shown or not.
Wherever it is kept, a change leaves it with one of them; a change to what is no option leaves the
dropdown, the store and all trees as they are. -/
theorem Session.dropdowns_chosen {host : Host} (hhost : host.registry.Keeps Leaf.Chosen)
    {store : Store} {snackbar : Option (Custom String)} {x : Session}
    (hreach : Session.Reaches (.start host store snackbar) x) :
    (∀ name tree, x.trees.lookup name = some (some tree) → tree.Choosing) ∧
    (∀ node path s place w, .finished place (some w) ∈ (x.host.render node path s).events →
      w.Choosing) ∧
    (∀ options label cell, (∃ choice ∈ options, selectedValue options cell = .str choice) →
      ∀ v s, ∃ cell', ((Leaf.dropdown options label cell).change v s).1 =
        .dropdown options label cell' ∧
        ∃ choice ∈ options, selectedValue options cell' = .str choice) ∧
    ∀ name place options label cell,
      x.widget name place = .ok (.leaf (.dropdown options label cell)) →
      ∀ v, (∀ choice ∈ options, v ≠ .str choice) →
        ∃ logged y, x.change name place v = .ok (logged, y) ∧
          logged.result = .leaf (.dropdown options label cell) ∧ y.store = x.store ∧
          y.heard = x.heard ∧ y.cells = x.cells ∧
          ∀ other, y.trees.lookup other = x.trees.lookup other := by
  have hx : x.Choosing := (Session.choosing_start hhost store snackbar).reaches hreach
  refine ⟨fun name tree htree => ?_, fun node path s place w hw => ?_,
    fun _ _ _ => Leaf.change_dropdown, ?_⟩
  · exact Widget.choosing_of_allLeaves (hx.trees _ (mem_of_lookup htree) tree rfl)
  · exact Widget.choosing_of_allLeaves ((hx.render_keeps node).events path s _ hw w rfl)
  · intro name place options label cell hl v hv
    refine Session.change_option_unknown hl (Bool.eq_false_iff.mpr fun hoption => ?_)
    obtain ⟨choice, hchoice, rfl⟩ := exists_of_isOption hoption
    exact hv choice hchoice rfl

/-- A store that remembers a checked box under the identity of a dropdown, and a builder of the host's
own around it. -/
theorem Session.dropdowns_chosen_reused :
    let dropdown := Json.obj [("type", .str "dropdown"), ("id", .str "size"),
      ("options", .arr [.str "S", .str "M"])]
    let node := Json.obj [("type", .str "slot"), ("child", dropdown)]
    let host : Host := ⟨Registry.standard.insert "slot" (CustomBuilder.child "child").builder, none⟩
    let start := Session.start host (.memory [("size", .bool true)]) none
    let x := (start.render "first" node).2
    host.registry.Keeps Leaf.Chosen ∧ Session.Reaches start x ∧
    x.widget "first" 0 =
      .ok (.leaf (.dropdown ["S", "M"] none (some ⟨"size", .str "S"⟩))) ∧
    ∃ logged y, x.change "first" 0 (.str "L") = .ok (logged, y) ∧ y.store = x.store := by
  intro dropdown node host start x
  have hhost : host.registry.Keeps Leaf.Chosen :=
    Registry.standard_keeps.insert (custom_keeps (.child "child")) "slot"
  have hreach : Session.Reaches start x := .single (.render start "first" node)
  have hwidget : x.widget "first" 0 =
      .ok (.leaf (.dropdown ["S", "M"] none (some ⟨"size", .str "S"⟩))) := rfl
  obtain ⟨-, -, -, hrefuses⟩ := Session.dropdowns_chosen hhost hreach
  obtain ⟨logged, y, hchange, -, hstore, -⟩ :=
    hrefuses "first" 0 _ _ _ hwidget (.str "L") (by simp)
  exact ⟨hhost, hreach, hwidget, logged, y, hchange, hstore⟩

end ServerUi
