import ServerUi.Proofs.Builder.Registry
import ServerUi.Proofs.Render.Visits

/-! How a document is rendered hangs on the registry no further than on what it has under the types
of the nodes that are met. -/

namespace ServerUi

section Frame

variable {images : Option (ImageSource → Report Bool)} {r r' : Registry}

/-- Both registries have the same builder for a node, if it has a type. -/
def Agreed (r r' : Registry) (v : Json) : Prop :=
  ∀ tag, v.config.name? "type" = some tag → r'.lookup tag = r.lookup tag

/-- A visit is carried out alike with both registries. -/
def Framed (images : Option (ImageSource → Report Bool)) (r r' : Registry) (u : Visit) : Prop :=
  Host.render ⟨r', images⟩ u.value u.path u.store = Host.render ⟨r, images⟩ u.value u.path u.store

theorem renderItems_frame {items : List Json} {i : Nat} {path : Path} {s : Store}
    (h : ∀ u ∈ Host.itemVisits ⟨r, images⟩ path i items s, Framed images r r' u) :
    Host.renderItems ⟨r', images⟩ i items path s = Host.renderItems ⟨r, images⟩ i items path s := by
  induction items generalizing i s with
  | nil => rfl
  | cons v rest ih =>
    rw [Host.itemVisits] at h
    by_cases hv : v.isObject = true
    · rw [if_pos hv] at h
      have hfirst : Host.render ⟨r', images⟩ v (path ++ [toString i]) s =
          Host.render ⟨r, images⟩ v (path ++ [toString i]) s := h _ List.mem_cons_self
      have hrest := ih fun u hu => h u (List.mem_cons_of_mem _ hu)
      rw [Host.renderItems_object _ hv, Host.renderItems_object _ hv, hfirst, hrest]
    · rw [if_neg hv] at h
      have hfalse : v.isObject = false := Bool.eq_false_iff.mpr hv
      rw [Host.renderItems_skipped _ hfalse, Host.renderItems_skipped _ hfalse, ih h]

theorem renderMember_frame {v : Json} {field : String} {path : Path} {s : Store}
    (h : ∀ u ∈ memberVisits v field path s, Framed images r r' u) :
    renderMember (parted ⟨r', images⟩ v) field path s =
      renderMember (parted ⟨r, images⟩ v) field path s := by
  rw [renderMember, renderMember, parted_members, parted_members]
  cases hu : v.config.lookup field with
  | none => rfl
  | some u =>
    have hget : v.config.get field = u := by rw [Config.get, hu, Option.getD_some]
    rw [memberVisits, hget] at h
    cases u with
    | obj config =>
      have hbelow : Host.render ⟨r', images⟩ (.obj config) (path ++ [field]) s =
          Host.render ⟨r, images⟩ (.obj config) (path ++ [field]) s := h _ List.mem_cons_self
      change Pass.under field (Host.render ⟨r', images⟩ (.obj config)) path s =
        Pass.under field (Host.render ⟨r, images⟩ (.obj config)) path s
      simp only [Pass.under_run, hbelow]
    | _ => rfl

section Requests

variable {config : Config} {place : Place} {path : Path} {s : Store}

theorem node_frame
    (h : ∀ u ∈ if place = [] then [] else
      ((Json.obj config).part? place).toList.map fun v => (⟨v, path, s⟩ : Visit),
      Framed images r r' u) :
    ((Host.nodePart ⟨r', images⟩ config).at? place).elim renderMissing Part.render path s =
      ((Host.nodePart ⟨r, images⟩ config).at? place).elim renderMissing Part.render path s := by
  by_cases hplace : place = []
  · rw [hplace]
    rfl
  · rw [if_neg hplace] at h
    rw [nodePart_at? _ config hplace, nodePart_at? _ config hplace]
    cases hv : (Json.obj config).part? place with
    | none => rfl
    | some v =>
      rw [hv] at h
      exact h ⟨v, path, s⟩ List.mem_cons_self

theorem children_frame
    (h : ∀ u ∈ Host.itemVisits ⟨r, images⟩ path 0
      (((Json.obj config).part? place).elim [] Json.items) s, Framed images r r' u) :
    renderItems 0 (((Host.nodePart ⟨r', images⟩ config).at? place).elim [] Part.items) path s =
      renderItems 0 (((Host.nodePart ⟨r, images⟩ config).at? place).elim [] Part.items) path s := by
  by_cases hplace : place = []
  · rw [hplace]
    rfl
  · rw [nodePart_at? _ config hplace, nodePart_at? _ config hplace]
    cases hv : (Json.obj config).part? place with
    | none => rfl
    | some v =>
      rw [hv] at h
      simp only [Option.map_some, Option.elim_some, parted_items]
      exact renderItems_frame h

theorem child_frame {field : String}
    (h : ∀ u ∈ ((Json.obj config).part? place).elim [] fun v => memberVisits v field path s,
      Framed images r r' u) :
    ((Host.nodePart ⟨r', images⟩ config).at? place).elim (pure none) (renderMember · field) path s =
      ((Host.nodePart ⟨r, images⟩ config).at? place).elim (pure none) (renderMember · field) path
        s := by
  by_cases hplace : place = []
  · rw [hplace] at h ⊢
    simp only [Part.at?, Option.elim_some, renderMember_node]
    exact renderMember_frame h
  · rw [nodePart_at? _ config hplace, nodePart_at? _ config hplace]
    cases hv : (Json.obj config).part? place with
    | none => rfl
    | some v =>
      rw [hv] at h
      exact renderMember_frame h

end Requests

theorem run_frame {config : Config} (b : Build α) {path : Path} {s : Store}
    (h : ∀ u ∈ b.visits ⟨r, images⟩ config path s, Framed images r r' u) :
    b.run images (Host.nodePart ⟨r', images⟩ config) path s =
      b.run images (Host.nodePart ⟨r, images⟩ config) path s := by
  induction b generalizing path s with
  | done a => rfl
  | fail fault => rfl
  | note n next ih =>
    have hnext := ih h
    simp only [Build.run, Pass.bind_run, Pass.emit_run, hnext]
  | key place next ih =>
    have hnext := ih _ h
    simp only [nodePart_config] at hnext
    simp only [Build.run, Pass.bind_run, Pass.here_run, nodePart_config, hnext]
  | node place next ih =>
    have hstep := node_frame fun u hu => h u (List.mem_append_left _ hu)
    have hnext := ih _ fun u hu => h u (List.mem_append_right _ hu)
    simp only [Build.run, Pass.bind_run, hstep, hnext]
  | children place next ih =>
    have hstep := children_frame fun u hu => h u (List.mem_append_left _ hu)
    have hnext := ih _ fun u hu => h u (List.mem_append_right _ hu)
    simp only [Build.run, Pass.bind_run, hstep, hnext]
  | child place field next ih =>
    have hstep := child_frame fun u hu => h u (List.mem_append_left _ hu)
    have hnext := ih _ fun u hu => h u (List.mem_append_right _ hu)
    simp only [Build.run, Pass.bind_run, hstep, hnext]
  | bind k v next ih =>
    have hnext := ih _ h
    simp only [Build.run, Pass.bind_run, hnext]
  | write cell v next ih =>
    have hnext := ih _ h
    simp only [Build.run, Pass.bind_run, hnext]
  | loads source next ih =>
    have hasked := Pass.ofReport_run (Build.loading images source) path s
    rw [← Build.askLoader_eq] at hasked
    simp only [Build.visits, hasked] at h
    simp only [Build.run, Pass.bind_run, hasked]
    cases houtcome : (Build.loading images source).outcome with
    | error fault => rfl
    | ok b =>
      rw [houtcome] at h
      simp only [ih b h]

/-- A value is rendered alike by two registries that agree on the nodes that are met. -/
theorem render_frame {v : Json} {path : Path} {s : Store}
    (h : ∀ w, Host.Visits ⟨r, images⟩ ⟨v, path, s⟩ w → Agreed r r' w.value) :
    Host.render ⟨r', images⟩ v path s = Host.render ⟨r, images⟩ v path s := by
  induction hsize : sizeOf v using Nat.strongRecOn generalizing v path s with
  | ind n ih =>
    subst hsize
    cases v with
    | obj config =>
      have hself := h _ .refl
      cases htag : Config.name? config "type" with
      | none =>
        change buildNode _ _ _ path s = buildNode _ _ _ path s
        simp only [buildNode, htag]
      | some tag =>
        have hagreed := hself tag htag
        cases hb : r.lookup tag with
        | none =>
          rw [hb] at hagreed
          change buildNode _ _ _ path s = buildNode _ _ _ path s
          simp only [buildNode, htag, hb, hagreed]
        | some b =>
          rw [hb] at hagreed
          have hbelow : ∀ u ∈ (b config).visits ⟨r, images⟩ config (path ++ [tag]) s,
              Framed images r r' u := by
            intro u hu
            have hasks : Host.Asks ⟨r, images⟩ ⟨.obj config, path, s⟩ u :=
              ⟨config, tag, b, rfl, htag, hb, hu⟩
            exact ih _ (sizeOf_visits _ _ hu) (fun w hw => h w (.head hasks hw)) rfl
          have hrun := run_frame (b config) hbelow
          have hrender := @Host.render_node ⟨r, images⟩ config tag b htag hb
          have hrender' := @Host.render_node ⟨r', images⟩ config tag b htag hagreed
          rw [hrender, hrender', contained_run, contained_run, hrun]
    | _ => rfl

theorem present_frame {document : Json} {s : Store}
    (h : ∀ w, Host.Visits ⟨r, images⟩ ⟨document, [], s⟩ w → Agreed r r' w.value) :
    Host.present ⟨r', images⟩ document s = Host.present ⟨r, images⟩ document s := by
  simp only [Host.present, Host.presentation, Pass.bind_run, render_frame h]

end Frame

/-- Builders are registered and removed in a session with the standard ones, and some of the calls
may be refused. From then on, registering a builder under a type, replacing the one that it has or
removing it changes nothing in how a document is rendered, with a store of any content, as long as
none of the nodes that are met has that type. A call that is refused changes nothing for any
document, and a registry with builders of its own keeps them as the standard ones are added. -/
theorem Session.registration_local (images : Option (ImageSource → Report Bool)) (store : Store)
    (snackbar : Option (Custom String)) (calls : List Registration) :
    let x := (Session.start (Host.standard images) store snackbar).registrations calls
    (∀ (t : String) (b : Builder) (document : Json) (s : Store),
      (∀ w, x.host.Visits ⟨document, [], s⟩ w → w.value.config.name? "type" ≠ some t) →
      (x.registration (.register (.str t) (some b))).host.present document s =
        x.host.present document s ∧
      (x.registration (.unregister t)).host.present document s = x.host.present document s) ∧
    (∀ (tag : Json) (builder : Option Builder),
      (∀ name, tag = .str name → name = "") ∨ builder = none →
      ∃ e, x.register tag builder = (⟨.error e, []⟩, x) ∧ ∀ (document : Json) (s : Store),
        (x.registration (.register tag builder)).host.present document s =
          x.host.present document s) ∧
    ∀ (r : Registry) (tag : String) (b : Builder), r.lookup tag = some b →
      r.withStandard.lookup tag = some b := by
  intro x
  refine ⟨fun t b document s hvisits => ?_, fun tag builder hrefused => ?_, fun r tag b hb => ?_⟩
  · have hframe (call : Registration)
        (hcall : (∃ b, call = .register (.str t) b) ∨ call = .unregister t) :
        (x.registration call).host.present document s = x.host.present document s := by
      have hhost : (x.registration call).host =
          ⟨(x.registration call).host.registry, x.host.images⟩ := by
        rw [← x.registration_images call]
      rw [hhost]
      refine present_frame fun w hw tag htag => x.registration_lookup hcall ?_
      rintro rfl
      exact hvisits w hw htag
    exact ⟨hframe _ (.inl ⟨some b, rfl⟩), hframe _ (.inr rfl)⟩
  · obtain ⟨e, he⟩ := x.register_refused hrefused
    refine ⟨e, he, fun document s => ?_⟩
    rw [registration, he]
  · rw [Registry.lookup_withStandard, hb, Option.some_or]

/-- A text with a checkbox below it that nothing renders. -/
def textOverCheckbox : Json :=
  .obj [("type", .str "text"), ("text", .str "Hi"), ("child", .obj [("type", .str "checkbox")])]

theorem visits_textOverCheckbox {host : Host} {w : Visit}
    (htext : host.registry.lookup "text" = some Builder.text)
    (h : host.Visits ⟨textOverCheckbox, [], .memory []⟩ w) :
    w.value.config.name? "type" ≠ some "checkbox" := by
  rcases Relation.ReflTransGen.cases_head h with rfl | ⟨u, hasks, -⟩
  · decide
  · obtain ⟨config, tag, b, hvalue, htag, hb, hu⟩ := hasks
    cases hvalue
    cases htag
    cases htext.symm.trans hb
    rw [(text_quiet _).visits_eq] at hu
    cases hu

theorem Session.registration_local_checkbox :
    let gauge : Registration := .register (.str "gauge") (some fun _ => .fail .overflow)
    let refused : Registration := .register (.int 3) none
    let x := (Session.start (Host.standard none) .ephemeral none).registrations [gauge, refused]
    (∀ w, x.host.Visits ⟨textOverCheckbox, [], .memory []⟩ w →
      w.value.config.name? "type" ≠ some "checkbox") ∧
    (x.registration (.unregister "checkbox")).host.present textOverCheckbox (.memory []) =
      x.host.present textOverCheckbox (.memory []) := by
  intro gauge refused x
  have hvisits : ∀ w, x.host.Visits ⟨textOverCheckbox, [], .memory []⟩ w →
      w.value.config.name? "type" ≠ some "checkbox" :=
    fun w => visits_textOverCheckbox rfl
  have hlocal := (Session.registration_local none .ephemeral none [gauge, refused]).1 "checkbox"
    (fun _ => .fail .overflow) textOverCheckbox (.memory []) hvisits
  exact ⟨hvisits, hlocal.2⟩

end ServerUi
