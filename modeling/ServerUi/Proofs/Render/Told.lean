import Mathlib.Data.List.TakeWhile
import ServerUi.Proofs.Render.Laws
import ServerUi.Proofs.Render.Steady
import ServerUi.Render.Told

/-! Rendering while the log is told. Whatever ends in a fault, and however far that goes, every step
down is taken back; what leaves a node is a fault of its builder that cannot say what it is. As long
as everything can be told, it is rendering and nothing else. -/

namespace ServerUi

/-- Ends where it began, with or without a fault, and keeps an ephemeral store. -/
def Telling.Steady (p : Telling α) : Prop := Pass.Steady p.run

namespace Telling.Steady

theorem pure (a : α) : Steady (Pure.pure a : Telling α) :=
  Pass.Steady.pure (Except.ok a : Except Fault α)

theorem throw (fault : Fault) : Steady (MonadExcept.throw fault : Telling α) :=
  Pass.Steady.pure (Except.error fault : Except Fault α)

theorem bind {p : Telling α} {f : α → Telling β} (hp : p.Steady) (hf : ∀ a, (f a).Steady) :
    Steady (p >>= f) := by
  refine Pass.Steady.bind hp fun outcome => ?_
  cases outcome with
  | ok a => exact hf a
  | error fault => exact Pass.Steady.pure _

theorem lift {p : Pass α} (hp : p.Steady) : Steady (liftM p : Telling α) :=
  Pass.Steady.bind hp fun a => Pass.Steady.pure (Except.ok a : Except Fault α)

theorem told {p : Pass α} (hp : p.Steady) (told : Wording) : Steady (p.told told) :=
  ⟨hp.path_eq, hp.store_eq⟩

theorem under {p : Telling α} (hp : p.Steady) (segment : String) :
    Steady (Telling.under segment p) :=
  Pass.Steady.under hp segment

end Telling.Steady

section Steady

variable (told : Wording)

abbrev TellingPart.Steady : TellingPart → Prop := Part.All Telling.Steady

theorem renderItemsTold_steady {parts : List TellingPart} (h : ∀ p ∈ parts, TellingPart.Steady p)
    (i : Nat) : (renderItemsTold told i parts).Steady := by
  induction parts generalizing i with
  | nil => exact .pure _
  | cons p rest ih =>
    have hrest := ih (fun q hq => h q (List.mem_cons_of_mem p hq)) (i + 1)
    unfold renderItemsTold
    split
    · exact .bind ((h p List.mem_cons_self).render.under _) fun _ => .bind hrest fun _ => .pure _
    · exact .bind (.told (.emit _) told) fun _ => hrest

theorem renderMemberTold_steady {p : TellingPart} (h : TellingPart.Steady p) (field : String) :
    (renderMemberTold told p field).Steady := by
  unfold renderMemberTold
  split
  · exact .pure _
  · next q hq =>
    split
    · exact .pure _
    · exact (h.lookup hq).render.under _
    · exact .bind (.told (.emit _) told) fun _ => .pure _

theorem Build.runTold_steady (images : Option (ImageSource → Report Bool)) {p : TellingPart}
    (h : TellingPart.Steady p) (b : Build α) : (b.runTold told images p).Steady := by
  induction b with
  | done a => exact .pure _
  | fail fault => exact .throw _
  | note n next ih => exact .bind (.told (.emit _) told) fun _ => ih
  | key place next ih => exact .bind (.lift .here) fun _ => ih _
  | node place next ih =>
    refine .bind ?_ ih
    cases hq : p.at? place with
    | none => exact .told (reportError_steady _ _) told
    | some q => exact (h.at? hq).render
  | children place next ih =>
    refine .bind (renderItemsTold_steady told ?_ 0) ih
    cases hq : p.at? place with
    | none => simp
    | some q => exact (h.at? hq).items
  | child place field next ih =>
    refine .bind ?_ ih
    cases hq : p.at? place with
    | none => exact .pure _
    | some q => exact renderMemberTold_steady told (h.at? hq) field
  | bind k v next ih => exact .bind (.lift (.bindCell k v)) ih
  | write cell v next ih => exact .bind (.told (.writeCell cell v) told) ih
  | loads source next ih =>
    rw [Build.runTold]
    refine .bind (.told (askLoader_steady images source) told) fun answer => ?_
    cases answer with
    | ok b => exact ih b
    | error fault => exact .throw _

theorem containedTold_steady (tag : String) (key : Path → String)
    {build : Telling (Option Widget)} (h : build.Steady) :
    (containedTold told tag key build).Steady := by
  refine .under (p := ExceptT.mk _) ?_ tag
  refine Pass.Steady.bind .here fun path => .bind (.emit _) fun _ => .bind h fun outcome => ?_
  cases outcome with
  | ok w => exact .bind .here fun _ => .bind (.emit _) fun _ => .pure _
  | error fault =>
    have hreport : Pass.Steady (do
        let w ← reportError (.failed fault) key
        Pass.emit [.note .builderTraceback]
        return w) :=
      .bind (reportError_steady _ _) fun _ => .bind (.emit _) fun _ => .pure _
    exact Telling.Steady.told hreport told

theorem buildNodeTold_steady (host : Host) (config : Config) {parts : List (String × TellingPart)}
    (h : ∀ m ∈ parts, TellingPart.Steady m.2) : (buildNodeTold told host config parts).Steady := by
  unfold buildNodeTold
  split
  · exact .told (reportError_steady _ _) told
  · split
    · exact .told (reportError_steady _ _) told
    · exact containedTold_steady told _ _
        (Build.runTold_steady told _ (.mk (.pure _) (by simp) h) _)

mutual

theorem partedTold_steady (host : Host) : ∀ v : Json, TellingPart.Steady (partedTold told host v)
  | .obj members =>
    have hmembers := partedMembersTold_steady host members
    .mk (buildNodeTold_steady told host members hmembers) (by simp) hmembers
  | .arr items =>
    .mk (.told (reportError_steady _ _) told) (partedItemsTold_steady host items) (by simp)
  | .null | .bool _ | .int _ | .float _ | .str _ =>
    .mk (.told (reportError_steady _ _) told) (by simp) (by simp)

theorem partedItemsTold_steady (host : Host) : ∀ items : List Json,
    ∀ p ∈ partedItemsTold told host items, TellingPart.Steady p
  | [] => by simp [partedItemsTold]
  | v :: rest =>
    List.forall_mem_cons.mpr ⟨partedTold_steady host v, partedItemsTold_steady host rest⟩

theorem partedMembersTold_steady (host : Host) : ∀ members : List (String × Json),
    ∀ m ∈ partedMembersTold told host members, TellingPart.Steady m.2
  | [] => by simp [partedMembersTold]
  | (_, v) :: rest =>
    List.forall_mem_cons.mpr ⟨partedTold_steady host v, partedMembersTold_steady host rest⟩

end

theorem Host.renderTold_steady (host : Host) (v : Json) : (host.renderTold told v).Steady :=
  (partedTold_steady told host v).render

end Steady

section Full

theorem Notice.untold?_full (n : Notice) : n.untold? .full = none := by
  have hshown (v : Json) : Wording.full.shown? v = none := by cases v <;> rfl
  unfold untold?
  split <;> first | rfl | exact hshown _

theorem Pass.told_full (p : Pass α) : p.told .full = liftM p := by
  have huntold (e : Event) : e.untold? .full = none := by
    rw [Event.untold?]
    cases e.notice? with
    | none => rfl
    | some n => exact n.untold?_full
  funext path s
  have hstop : (p path s).events.findSome? (Event.untold? .full) = none :=
    List.findSome?_eq_none_iff.mpr fun e _ => huntold e
  have hkept : (p path s).events.takeWhile (fun e => (e.untold? .full).isNone) =
      (p path s).events :=
    List.takeWhile_eq_self_iff.mpr fun e _ => by rw [huntold e]; rfl
  have htold : p.told .full path s = ⟨.ok (p path s).value, (p path s).path, (p path s).store,
      (p path s).events⟩ := by
    simp only [told, ExceptT.mk, hstop, hkept, Option.elim_none]
  rw [htold]
  exact congrArg (Outcome.mk _ _ _) (List.append_nil _).symm

theorem Telling.under_lift (segment : String) (p : Pass α) :
    Telling.under segment (liftM p) = liftM (p.under segment) := rfl

theorem Telling.lift_bind_mk (p : Pass α) (f : α → Pass (Except Fault β)) :
    ((liftM p : Telling α) >>= fun a => ExceptT.mk (f a)) = ExceptT.mk (p >>= f) :=
  ExceptT.run_bind_lift p fun a => ExceptT.mk (f a)

mutual

/-- The part with another way to render each of its parts. -/
def Part.map {ρ σ : Type} (f : ρ → σ) : Part ρ → Part σ
  | .mk v r items members => .mk v (f r) (Part.mapItems f items) (Part.mapMembers f members)

def Part.mapItems {ρ σ : Type} (f : ρ → σ) : List (Part ρ) → List (Part σ)
  | [] => []
  | p :: rest => p.map f :: Part.mapItems f rest

def Part.mapMembers {ρ σ : Type} (f : ρ → σ) : List (String × Part ρ) → List (String × Part σ)
  | [] => []
  | (k, p) :: rest => (k, p.map f) :: Part.mapMembers f rest

end

namespace Part

variable {ρ σ : Type} (f : ρ → σ)

theorem value_map (p : Part ρ) : (p.map f).value = p.value := by
  cases p
  rfl

theorem render_map (p : Part ρ) : (p.map f).render = f p.render := by
  cases p
  rfl

theorem items_map (p : Part ρ) : (p.map f).items = mapItems f p.items := by
  cases p
  rfl

theorem members_map (p : Part ρ) : (p.map f).members = mapMembers f p.members := by
  cases p
  rfl

theorem lookup_mapMembers (members : List (String × Part ρ)) (key : String) :
    (mapMembers f members).lookup key = (members.lookup key).map (map f) := by
  induction members with
  | nil => rfl
  | cons m rest ih =>
    obtain ⟨k, p⟩ := m
    rw [mapMembers, List.lookup_cons, List.lookup_cons, ih]
    cases key == k <;> rfl

theorem getElem?_mapItems (items : List (Part ρ)) (i : Nat) :
    (mapItems f items)[i]? = items[i]?.map (map f) := by
  induction items generalizing i with
  | nil => rfl
  | cons p rest ih =>
    cases i with
    | zero => rfl
    | succ i => simpa only [mapItems, List.getElem?_cons_succ] using ih i

theorem at?_map (p : Part ρ) (place : Place) : (p.map f).at? place = (p.at? place).map (map f) := by
  induction place generalizing p with
  | nil => rfl
  | cons hop rest ih =>
    cases hop with
    | member key =>
      rw [at?, at?, members_map, lookup_mapMembers]
      cases p.members.lookup key with
      | none => rfl
      | some q => exact ih q
    | item i =>
      rw [at?, at?, items_map, getElem?_mapItems]
      cases p.items[i]? with
      | none => rfl
      | some q => exact ih q

end Part

/-- Rendered with a log that is told in full. -/
abbrev Part.telling : Part → TellingPart := Part.map liftM

theorem renderItemsTold_full (i : Nat) (parts : List Part) :
    renderItemsTold .full i (Part.mapItems liftM parts) = liftM (renderItems i parts) := by
  induction parts generalizing i with
  | nil => exact (liftM_pure []).symm
  | cons p rest ih =>
    rw [Part.mapItems, renderItemsTold, renderItems, Part.value_map, Part.render_map]
    cases p.value with
    | obj members =>
      simp only [Telling.under_lift, ih, liftM_bind, liftM_pure]
    | _ => simp only [Pass.told_full, ih, liftM_bind]

theorem renderMemberTold_full (p : Part) (field : String) :
    renderMemberTold .full p.telling field = liftM (renderMember p field) := by
  rw [renderMemberTold, renderMember, Part.members_map, Part.lookup_mapMembers]
  cases p.members.lookup field with
  | none => exact (liftM_pure none).symm
  | some q =>
    rw [Option.map_some]
    dsimp only
    rw [Part.value_map, Part.render_map]
    cases q.value with
    | null => exact (liftM_pure none).symm
    | obj members => rfl
    | _ => simp only [Pass.told_full, liftM_bind, liftM_pure]

theorem Build.runTold_full (images : Option (ImageSource → Report Bool)) (p : Part) (b : Build α) :
    b.runTold .full images p.telling = ExceptT.mk (b.run images p) := by
  induction b with
  | done a => rfl
  | fail fault => rfl
  | note n next ih =>
    rw [runTold, run, ih, Pass.told_full, Telling.lift_bind_mk]
  | key place next ih =>
    have hkey : (((p.at? place).map (Part.map liftM)).map fun q : TellingPart => q.value.config) =
        (p.at? place).map (·.value.config) := by
      rw [Option.map_map]
      have hconfig : (fun q : TellingPart => q.value.config) ∘ Part.map liftM =
          fun q : Part => q.value.config :=
        funext fun q => congrArg Json.config (Part.value_map liftM q)
      rw [hconfig]
    simp only [runTold, run, Part.at?_map, hkey, ih, Telling.lift_bind_mk]
  | node place next ih =>
    have hnode : ((p.at? place).map (Part.map liftM)).elim (Pass.told .full renderMissing)
          Part.render =
        liftM ((p.at? place).elim renderMissing Part.render) := by
      cases p.at? place with
      | none => exact Pass.told_full renderMissing
      | some q => exact Part.render_map liftM q
    simp only [runTold, run, Part.at?_map, hnode, ih, Telling.lift_bind_mk]
  | children place next ih =>
    have hitems : renderItemsTold .full 0
          (((p.at? place).map (Part.map liftM)).elim [] Part.items) =
        liftM (renderItems 0 ((p.at? place).elim [] Part.items)) := by
      rw [← renderItemsTold_full]
      cases p.at? place with
      | none => rfl
      | some q => exact congrArg _ (Part.items_map liftM q)
    simp only [runTold, run, Part.at?_map, hitems, ih, Telling.lift_bind_mk]
  | child place field next ih =>
    have hchild : ((p.at? place).map (Part.map liftM)).elim (pure none)
          (renderMemberTold .full · field) =
        liftM ((p.at? place).elim (pure none) (renderMember · field)) := by
      cases p.at? place with
      | none => exact (liftM_pure none).symm
      | some q => exact renderMemberTold_full q field
    simp only [runTold, run, Part.at?_map, hchild, ih, Telling.lift_bind_mk]
  | bind k v next ih =>
    simp only [runTold, run, ih, Telling.lift_bind_mk]
  | write cell v next ih =>
    simp only [runTold, run, ih, Pass.told_full, Telling.lift_bind_mk]
  | loads source next ih =>
    rw [runTold, run, Pass.told_full, ← Telling.lift_bind_mk]
    refine congrArg _ (funext fun answer => ?_)
    cases answer with
    | ok b => exact ih b
    | error fault => rfl

theorem containedTold_full (tag : String) (key : Path → String)
    (build : Pass (Except Fault (Option Widget))) :
    containedTold .full tag key (ExceptT.mk build) = liftM (contained tag key build) := by
  rw [containedTold, contained, ← Telling.under_lift]
  refine congrArg (Telling.under tag) ?_
  simp only [liftM_bind, ← Telling.lift_bind_mk]
  refine bind_congr fun path => bind_congr fun _ => bind_congr fun outcome => ?_
  cases outcome with
  | ok w => rfl
  | error fault => exact Pass.told_full _

theorem buildNodeTold_full (host : Host) (config : Config) (parts : List (String × Part)) :
    buildNodeTold .full host config (Part.mapMembers liftM parts) =
      liftM (buildNode host config parts) := by
  unfold buildNodeTold buildNode
  cases config.name? "type" with
  | none => exact Pass.told_full _
  | some tag =>
    dsimp only
    cases host.registry.lookup tag with
    | none => exact Pass.told_full _
    | some b =>
      have hpart : Part.mk (.obj config) (pure none) [] (Part.mapMembers liftM parts) =
          Part.telling (.mk (.obj config) (pure none) [] parts) := by
        rw [Part.telling, Part.map, liftM_pure, Part.mapItems]
      dsimp only
      rw [hpart, Build.runTold_full, containedTold_full]

mutual

theorem partedTold_full (host : Host) : ∀ v : Json,
    partedTold .full host v = (parted host v).telling
  | .obj members => by
    rw [partedTold, parted, partedMembersTold_full host members, buildNodeTold_full, Part.telling,
      Part.map, Part.mapItems]
  | .arr items => by
    rw [partedTold, parted, partedItemsTold_full host items, Pass.told_full, Part.telling, Part.map,
      Part.mapMembers]
  | .null | .bool _ | .int _ | .float _ | .str _ => by
    simp only [partedTold, parted, Pass.told_full, Part.telling, Part.map, Part.mapItems,
      Part.mapMembers]

theorem partedItemsTold_full (host : Host) : ∀ items : List Json,
    partedItemsTold .full host items = Part.mapItems liftM (partedItems host items)
  | [] => rfl
  | v :: rest => by
    rw [partedItemsTold, partedItems, Part.mapItems, partedTold_full host v,
      partedItemsTold_full host rest]

theorem partedMembersTold_full (host : Host) : ∀ members : List (String × Json),
    partedMembersTold .full host members = Part.mapMembers liftM (partedMembers host members)
  | [] => rfl
  | (k, v) :: rest => by
    rw [partedMembersTold, partedMembers, Part.mapMembers, partedTold_full host v,
      partedMembersTold_full host rest]

end

theorem Host.renderTold_full (host : Host) (v : Json) :
    host.renderTold .full v = liftM (host.render v) := by
  rw [renderTold, partedTold_full, Part.render_map, render]

end Full

section Leaves

variable (told : Wording)

/-- What is left of a node whose builder ended so. -/
def inPlaceTold : Except Fault (Option Widget) → Except Fault (Option Widget)
  | .ok w => .ok w
  | .error cause =>
    (told.fault? cause).elim (.ok (some (.error (NodeError.failed cause).message))) .error

theorem inPlaceTold_eq_error_iff {outcome : Except Fault (Option Widget)} {fault : Fault} :
    inPlaceTold told outcome = .error fault ↔
      ∃ cause, outcome = .error cause ∧ told.fault? cause = some fault := by
  cases outcome with
  | ok w => exact iff_of_false nofun nofun
  | error cause =>
    rw [inPlaceTold]
    cases hcause : told.fault? cause with
    | none => exact iff_of_false nofun fun ⟨_, h, hfault⟩ => by cases h; simp [hcause] at hfault
    | some other =>
      refine ⟨fun h => ⟨cause, rfl, hcause.trans (congrArg some (Except.error.inj h))⟩, ?_⟩
      rintro ⟨_, ⟨⟩, hfault⟩
      exact congrArg Except.error (Option.some.inj (hcause.symm.trans hfault))

theorem containedTold_value (tag : String) (key : Path → String)
    (build : Telling (Option Widget)) (path : Path) (s : Store) :
    (containedTold told tag key build path s).value =
      inPlaceTold told (build (path ++ [tag]) s).value := by
  simp only [containedTold, Telling.under, ExceptT.mk, ExceptT.run, Pass.under_run, Pass.bind_run,
    Pass.here_run, Pass.emit_run]
  cases (build (path ++ [tag]) s).value with
  | ok w => rfl
  | error cause =>
    have hstop (k : String) :
        [Event.note (.node (.failed cause) k), .note .builderTraceback].findSome?
          (Event.untold? told) = told.fault? cause := by
      rw [List.findSome?_cons, List.findSome?_cons]
      cases h : told.fault? cause with
      | none => simp only [Event.untold?, Event.notice?, Option.bind_some, Notice.untold?, h]; rfl
      | some fault => simp only [Event.untold?, Event.notice?, Option.bind_some, Notice.untold?, h]
    exact congrArg (fun stop => Option.elim stop _ _) (hstop _)

def Host.nodePartTold (host : Host) (config : Config) : TellingPart :=
  .mk (.obj config) (pure none) [] (partedMembersTold told host config)

/-- How the builder of a node ends that is reached by way of a path. -/
def Host.buildTold (host : Host) (b : Builder) (config : Config) : Telling (Option Widget) :=
  (b config).runTold told host.images (host.nodePartTold told config)

variable {told}

theorem Host.renderTold_obj (host : Host) (config : Config) :
    host.renderTold told (.obj config) =
      buildNodeTold told host config (partedMembersTold told host config) := rfl

theorem Host.renderTold_node {host : Host} {config : Config} {tag : String} {b : Builder}
    (htag : config.name? "type" = some tag) (hb : host.registry.lookup tag = some b) :
    host.renderTold told (.obj config) =
      containedTold told tag (identity config) (host.buildTold told b config) := by
  simp only [renderTold_obj, buildNodeTold, htag, hb, buildTold, nodePartTold]

theorem Host.renderTold_value {host : Host} {config : Config} {tag : String} {b : Builder}
    (htag : config.name? "type" = some tag) (hb : host.registry.lookup tag = some b) (path : Path)
    (s : Store) :
    (host.renderTold told (.obj config) path s).value =
      inPlaceTold told (host.buildTold told b config (path ++ [tag]) s).value := by
  rw [renderTold_node htag hb, containedTold_value]

/-- Nothing leaves a node but a fault of its builder that cannot say what it is. -/
theorem Host.renderTold_eq_error_iff (host : Host) (v : Json) (path : Path) (s : Store)
    (fault : Fault) :
    (host.renderTold told v path s).value = .error fault ↔
      ∃ (config : Config) (tag : String) (b : Builder) (cause : Fault), v = .obj config ∧
        config.name? "type" = some tag ∧
        host.registry.lookup tag = some b ∧
        (host.buildTold told b config (path ++ [tag]) s).value = .error cause ∧
        told.fault? cause = some fault := by
  constructor
  · intro h
    cases v with
    | obj config =>
      cases htag : Config.name? config "type" with
      | none =>
        simp only [renderTold_obj, buildNodeTold, htag] at h
        cases h
      | some tag =>
        cases hb : host.registry.lookup tag with
        | none =>
          simp only [renderTold_obj, buildNodeTold, htag, hb] at h
          cases h
        | some b =>
          rw [renderTold_value htag hb, inPlaceTold_eq_error_iff] at h
          obtain ⟨cause, hcause, hfault⟩ := h
          exact ⟨config, tag, b, cause, rfl, htag, hb, hcause, hfault⟩
    | _ => cases h
  · rintro ⟨config, tag, b, cause, rfl, htag, hb, hcause, hfault⟩
    rw [renderTold_value htag hb, inPlaceTold_eq_error_iff]
    exact ⟨cause, hcause, hfault⟩

end Leaves

end ServerUi
