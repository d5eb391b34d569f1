import ServerUi.Proofs.Session.Refinement

/-! Where a remembered value comes from. An identity may be that of a checkbox in one document and
of a dropdown in another, and the value stays: a dropdown selects anew what is none of its options,
but a checkbox takes the truth of whatever it finds. -/

namespace ServerUi

/-- What is done to the values of a store: an interactive node is built, or a widget is changed. -/
inductive Deed where
  | built (i : Input)
  | changed (w : Widget) (v : Json)

namespace Deed

/-- The deed may have put the value under the identity. -/
inductive Puts : Deed → String → Json → Prop where
  | seeded (i : Input) : Puts (built i) i.key i.seed.initial
  | toggled (label : Option String) (cell : Cell) (v : Json) :
      Puts (changed (.leaf (.checkbox label (some cell))) v) cell.key (.bool v.truth)
  | chosen (label : Option String) (cell : Cell) {options : List String} {v : Json}
      (h : Builder.isOption options v = true) :
      Puts (changed (.leaf (.dropdown options label (some cell))) v) cell.key v

/-- A checkbox of the identity is checked by its document, or changed to a value that is true. -/
def Checks (key : String) : Deed → Prop
  | built i => i.key = key ∧ ∃ label, i.seed = .checkbox label true
  | changed (.leaf (.checkbox _ (some cell))) v => cell.key = key ∧ v.truth = true
  | _ => False

/-- A dropdown of the identity starts from an option that is not empty, or is changed to one. -/
def Selects (key : String) : Deed → Prop
  | built i => i.key = key ∧ ∃ first others label, i.seed = .dropdown first others label ∧ first ≠ ""
  | changed (.leaf (.dropdown options _ (some cell))) (.str choice) =>
    cell.key = key ∧ choice ∈ options ∧ choice ≠ ""
  | _ => False

theorem Puts.checks_or_selects {d : Deed} {key : String} {v : Json} (h : d.Puts key v)
    (htrue : v.truth = true) : d.Checks key ∨ d.Selects key := by
  cases h with
  | seeded i =>
    rcases i with ⟨key, ⟨label, checked⟩ | ⟨first, others, label⟩⟩
    · change checked = true at htrue
      exact .inl ⟨rfl, label, by rw [htrue]⟩
    · exact .inr ⟨rfl, first, others, label, rfl, bne_iff_ne.mp htrue⟩
  | toggled label cell u => exact .inl ⟨rfl, htrue⟩
  | chosen label cell hoption =>
    cases v with
    | str choice => exact .inr ⟨rfl, List.contains_iff_mem.mp hoption, bne_iff_ne.mp htrue⟩
    | _ => cases hoption

end Deed

namespace Ledger

/-- Each value was put there by one of the deeds. -/
def Backed (m : Ledger) (ds : List Deed) : Prop :=
  ∀ key v, m key = some v → ∃ d ∈ ds, d.Puts key v

theorem shows_true {m : Ledger} {i : Input} (h : m.shows i = .bool true) :
    ∃ v, m i.key = some v ∧ v.truth = true := by
  obtain ⟨key, seed⟩ := i
  cases hv : m key with
  | none => cases seed <;> simp only [shows, hv] at h <;> cases h
  | some v =>
    refine ⟨v, rfl, ?_⟩
    cases seed with
    | checkbox label checked =>
      simp only [shows, hv] at h
      exact Json.bool.inj h
    | dropdown first others label =>
      simp only [shows, hv] at h
      change v = .bool true at h
      rw [h]
      rfl

namespace Backed

variable {m : Ledger} {ds es : List Deed}

theorem empty : Ledger.empty.Backed ds := by
  intro key v h
  cases h

theorem mono (h : m.Backed ds) (hsub : ds ⊆ es) : m.Backed es := by
  intro key v hv
  obtain ⟨d, hd, hputs⟩ := h key v hv
  exact ⟨d, hsub hd, hputs⟩

theorem set (h : m.Backed ds) {d : Deed} {key : String} {v : Json} (hputs : d.Puts key v) :
    (m.set key v).Backed (ds ++ [d]) := by
  intro k u hu
  rw [Ledger.set] at hu
  split at hu
  · next hk =>
    cases hu
    exact ⟨d, List.mem_append_right ds List.mem_cons_self, hk ▸ hputs⟩
  · exact h.mono (List.subset_append_left ds [d]) k u hu

theorem enter (h : m.Backed ds) (i : Input) : (m.enter i).Backed (ds ++ [.built i]) := by
  rw [show m.enter i = m.enter ⟨i.key, i.seed⟩ from rfl, enter_eq]
  split
  · exact h.mono (List.subset_append_left ds _)
  · exact h.set (.seeded i)

theorem play (h : m.Backed ds) (is : List Input) :
    (m.play is).1.Backed (ds ++ is.map .built) := by
  induction is generalizing m ds with
  | nil => exact h.mono (List.subset_append_left ds [])
  | cons i rest ih =>
    have hrest := ih (h.enter i)
    rw [List.append_assoc] at hrest
    exact hrest

/-- A node that shows true finds a value under its identity that a deed has put there. -/
theorem of_shown (h : m.Backed ds) {is : List Input} {key : String}
    (hmem : (key, .bool true) ∈ (m.play is).2) :
    ∃ d ∈ ds ++ is.map .built, ∃ v, d.Puts key v ∧ v.truth = true := by
  induction is generalizing m ds with
  | nil => cases hmem
  | cons i rest ih =>
    -- The node that shows true is the next one, or one that is built behind it.
    have hnext := h.enter i
    rcases List.mem_cons.mp hmem with hfirst | hrest
    · obtain ⟨hkey, hshows⟩ := Prod.mk.inj hfirst
      obtain ⟨v, hv, htrue⟩ := shows_true hshows.symm
      obtain ⟨d, hd, hputs⟩ := hnext i.key v hv
      refine ⟨d, ?_, v, hkey ▸ hputs, htrue⟩
      rw [List.map_cons, List.append_cons]
      exact List.mem_append_left _ hd
    · have hlater := ih hnext hrest
      rw [List.append_assoc] at hlater
      exact hlater

theorem noted (h : m.Backed ds) (v : Json) (w : Widget) :
    (Session.noted m v w).Backed (ds ++ [.changed w v]) := by
  have hsame : m.Backed (ds ++ [.changed w v]) := h.mono (List.subset_append_left ds _)
  unfold Session.noted
  split
  · exact h.set (.toggled _ _ v)
  · split
    · next hoption => exact h.set (.chosen _ _ hoption)
    · exact hsame
  · exact hsame

end Backed

end Ledger

namespace Session

/-- The deeds since the store was cleared last. -/
def deedsCall (images : Option (ImageSource → Report Bool)) (x : Session) (ds : List Deed) :
    Call → List Deed
  | .render _ node => ds ++ (inputs images node []).map .built
  | .change name place v =>
    match x.widget name place with
    | .ok w => ds ++ [.changed w v]
    | .error _ => ds
  | .clear => []
  | .subscribe => ds

def deeds (images : Option (ImageSource → Report Bool)) (x : Session) (ds : List Deed) :
    List Call → List Deed
  | [] => ds
  | c :: rest => deeds images (x.call c) (x.deedsCall images ds c) rest

theorem backed_call {images : Option (ImageSource → Report Bool)} {m : Ledger} {ds : List Deed}
    (h : m.Backed ds) (x : Session) (c : Call) :
    (x.ledgerCall images m c).Backed (x.deedsCall images ds c) := by
  cases c with
  | render name node => exact h.play _
  | change name place v =>
    simp only [ledgerCall, deedsCall]
    cases x.widget name place with
    | ok w => exact h.noted v w
    | error refusal => exact h
  | clear => exact .empty
  | subscribe => exact h

theorem backed_ledger {images : Option (ImageSource → Report Bool)} {m : Ledger} {ds : List Deed}
    (h : m.Backed ds) (x : Session) (calls : List Call) :
    (x.ledger images m calls).Backed (x.deeds images ds calls) := by
  induction calls generalizing x m ds with
  | nil => exact h
  | cons c rest ih => exact ih (backed_call h x c) (x.call c)

end Session

theorem checkbox_mem_inputsShown {tree : Option Widget} {label : Option String} {cell : Cell}
    (h : Widget.leaf (.checkbox label (some cell)) ∈ tree.elim [] Widget.walk) :
    (cell.key, .bool (checkedValue (some cell))) ∈ inputsShown tree.toList := by
  cases tree with
  | none => cases h
  | some w =>
    rw [Option.toList_some, inputsShown, List.flatMap_singleton]
    exact List.mem_filterMap.mpr ⟨_, h, rfl⟩

/-- Whatever has been rendered and changed before, a checkbox of a tree that has just been rendered
is checked only if, since the store was cleared last, a checkbox of its identity was checked by a
document or by a user, or a dropdown of its identity has selected an option that is not empty. -/
theorem Session.checked_origin (images : Option (ImageSource → Report Bool))
    (snackbar : Option (Custom String)) (calls : List Session.Call) (name : String)
    (node : Json) :
    let start := Session.start (Host.standard images) (.memory []) snackbar
    let x := start.history calls
    let ds := x.deedsCall images (start.deeds images [] calls) (.render name node)
    ∀ (label : Option String) (cell : Cell),
      Widget.leaf (.checkbox label (some cell)) ∈
        (x.render name node).1.result.elim [] Widget.walk →
      checkedValue (some cell) = true → ∃ d ∈ ds, d.Checks cell.key ∨ d.Selects cell.key := by
  intro start x ds label cell hmem hchecked
  have hs : x.store.Holds (start.ledger images .empty calls) :=
    Session.holds_history rfl rfl ⟨[], rfl, List.nodup_nil, fun _ => rfl⟩ calls
  have hrender := Session.recorded_render (start.history_host calls) (start.history_path calls) hs
    node
  have hshown := hrender.shown.subset (checkbox_mem_inputsShown hmem)
  rw [hchecked] at hshown
  have hbacked : (start.ledger images .empty calls).Backed (start.deeds images [] calls) :=
    Session.backed_ledger .empty start calls
  obtain ⟨d, hd, v, hputs, htrue⟩ := hbacked.of_shown hshown
  exact ⟨d, hd, hputs.checks_or_selects htrue⟩

section Plan

def planDropdown : Json :=
  .obj [("type", .str "dropdown"), ("id", .str "plan"), ("options", .arr [.str "Free", .str "Pro"])]

/-- A checkbox of the same identity. -/
def planCheckbox : Json :=
  .obj [("type", .str "checkbox"), ("id", .str "plan"), ("value", .bool false)]

theorem inputs_planDropdown :
    inputs none planDropdown [] = [⟨"plan", .dropdown "Free" ["Pro"] none⟩] :=
  (inputs_form rfl rfl []).trans rfl

theorem inputs_planCheckbox : inputs none planCheckbox [] = [⟨"plan", .checkbox none false⟩] :=
  (inputs_form rfl rfl []).trans rfl

theorem planCheckbox_shown :
    let x := (Session.start (Host.standard none) (.memory []) none).history
      [.render "page" planDropdown]
    Widget.leaf (.checkbox none (some ⟨"plan", .str "Free"⟩)) ∈
      (x.render "page" planCheckbox).1.result.elim [] Widget.walk :=
  List.Mem.head []

theorem Session.checked_origin_dropdown :
    let start := Session.start (Host.standard none) (.memory []) none
    let x := start.history [.render "page" planDropdown]
    let ds := x.deedsCall none (start.deeds none [] [.render "page" planDropdown])
      (.render "page" planCheckbox)
    Widget.leaf (.checkbox none (some ⟨"plan", .str "Free"⟩)) ∈
      (x.render "page" planCheckbox).1.result.elim [] Widget.walk ∧
    checkedValue (some ⟨"plan", .str "Free"⟩) = true ∧
    ∃ d ∈ ds, d.Checks "plan" ∨ d.Selects "plan" := by
  intro start x ds
  exact ⟨planCheckbox_shown, rfl, Session.checked_origin none none [.render "page" planDropdown]
    "page" planCheckbox none _ planCheckbox_shown rfl⟩

/-- No checkbox needs to have been checked. -/
theorem Session.checked_unasked :
    ¬ ∀ (images : Option (ImageSource → Report Bool)) (calls : List Session.Call) (name : String)
      (node : Json) (label : Option String) (cell : Cell),
      let start := Session.start (Host.standard images) (.memory []) none
      let x := start.history calls
      let ds := x.deedsCall images (start.deeds images [] calls) (.render name node)
      Widget.leaf (.checkbox label (some cell)) ∈
        (x.render name node).1.result.elim [] Widget.walk →
      checkedValue (some cell) = true → ∃ d ∈ ds, d.Checks cell.key := by
  intro h
  obtain ⟨d, hd, hchecks⟩ := h none [.render "page" planDropdown] "page" planCheckbox none
    ⟨"plan", .str "Free"⟩ planCheckbox_shown rfl
  simp only [Session.deedsCall, Session.deeds, inputs_planDropdown, inputs_planCheckbox,
    List.nil_append, List.map_cons, List.map_nil, List.cons_append, List.mem_cons,
    List.not_mem_nil, or_false] at hd
  rcases hd with rfl | rfl <;> obtain ⟨-, label, hseed⟩ := hchecks <;> cases hseed

end Plan

end ServerUi
