import ServerUi.Proofs.Render.Parts

/-! Every step down is taken back, by whatever builders a node and the nodes below it are built,
and whether they fail or not. So rendering ends where it began, and an ephemeral store is left as
it was. -/

namespace ServerUi

/-- Ends where it began, and keeps an ephemeral store. -/
structure Pass.Steady (p : Pass α) : Prop where
  path_eq : ∀ path s, (p path s).path = path
  store_eq : ∀ path, (p path .ephemeral).store = .ephemeral

namespace Pass.Steady

theorem pure (a : α) : (Pure.pure a : Pass α).Steady :=
  ⟨fun _ _ => rfl, fun _ => rfl⟩

theorem emit (events : List Event) : (Pass.emit events).Steady :=
  ⟨fun _ _ => rfl, fun _ => rfl⟩

theorem here : Pass.here.Steady :=
  ⟨fun _ _ => rfl, fun _ => rfl⟩

theorem bind {p : Pass α} {f : α → Pass β} (hp : p.Steady) (hf : ∀ a, (f a).Steady) :
    (p >>= f).Steady := by
  constructor
  · intro path s
    change (f (p path s).value (p path s).path (p path s).store).path = path
    rw [(hf _).path_eq, hp.path_eq]
  · intro path
    change (f (p path .ephemeral).value (p path .ephemeral).path
      (p path .ephemeral).store).store = .ephemeral
    rw [hp.store_eq]
    exact (hf _).store_eq _

theorem under {p : Pass α} (hp : p.Steady) (segment : String) : (p.under segment).Steady := by
  constructor
  · intro path s
    change (p (path ++ [segment]) s).path.dropLast = path
    rw [hp.path_eq, List.dropLast_concat]
  · exact fun path => hp.store_eq (path ++ [segment])

theorem bindCell (key : String) (initial : Json) : (Pass.bindCell key initial).Steady :=
  ⟨fun _ _ => rfl, fun _ => rfl⟩

theorem writeCell (cell : Cell) (v : Json) : (Pass.writeCell cell v).Steady :=
  ⟨fun _ _ => rfl, fun _ => rfl⟩

end Pass.Steady

/-- Each part of a value, and the value itself, is rendered steadily. -/
abbrev Part.Steady : Part → Prop := Part.All Pass.Steady

theorem reportError_steady (error : NodeError) (key : Path → String) :
    (reportError error key).Steady :=
  .bind .here fun _ => .bind (.emit _) fun _ => .pure _

theorem renderItems_steady {parts : List Part} (h : ∀ p ∈ parts, p.Steady) (i : Nat) :
    (renderItems i parts).Steady := by
  induction parts generalizing i with
  | nil => exact .pure _
  | cons p rest ih =>
    have hrest := ih (fun q hq => h q (List.mem_cons_of_mem p hq)) (i + 1)
    unfold renderItems
    split
    · exact .bind ((h p List.mem_cons_self).render.under _) fun _ => .bind hrest fun _ => .pure _
    · exact .bind (.emit _) fun _ => hrest

theorem renderMember_steady {p : Part} (h : p.Steady) (field : String) :
    (renderMember p field).Steady := by
  unfold renderMember
  split
  · exact .pure _
  · next q hq =>
    split
    · exact .pure _
    · exact (h.lookup hq).render.under _
    · exact .bind (.emit _) fun _ => .pure _

theorem askLoader_steady (images : Option (ImageSource → Report Bool)) (source : ImageSource) :
    (askLoader images source).Steady := by
  cases images with
  | none => exact .pure _
  | some loader => exact .bind (.emit _) fun _ => .pure _

theorem Build.run_steady (images : Option (ImageSource → Report Bool)) {p : Part} (h : p.Steady)
    (b : Build α) : (b.run images p).Steady := by
  induction b with
  | done a => exact .pure _
  | fail fault => exact .pure _
  | note n next ih => exact .bind (.emit _) fun _ => ih
  | key place next ih => exact .bind .here fun _ => ih _
  | node place next ih =>
    refine .bind ?_ ih
    cases hq : p.at? place with
    | none => exact reportError_steady _ _
    | some q => exact (h.at? hq).render
  | children place next ih =>
    refine .bind (renderItems_steady ?_ 0) ih
    cases hq : p.at? place with
    | none => simp
    | some q => exact (h.at? hq).items
  | child place field next ih =>
    refine .bind ?_ ih
    cases hq : p.at? place with
    | none => exact .pure _
    | some q => exact renderMember_steady (h.at? hq) field
  | bind k v next ih => exact .bind (.bindCell k v) ih
  | write cell v next ih => exact .bind (.writeCell cell v) ih
  | loads source next ih =>
    rw [Build.run]
    refine .bind (askLoader_steady images source) fun answer => ?_
    cases answer with
    | ok b => exact ih b
    | error fault => exact .pure _

theorem contained_steady (tag : String) (key : Path → String)
    {build : Pass (Except Fault (Option Widget))} (h : build.Steady) :
    (contained tag key build).Steady := by
  refine .under (.bind .here fun path => .bind (.emit _) fun _ => .bind h fun outcome => ?_) tag
  cases outcome with
  | ok w => exact .bind .here fun _ => .bind (.emit _) fun _ => .pure _
  | error fault =>
    exact .bind (reportError_steady _ _) fun _ => .bind (.emit _) fun _ => .pure _

theorem buildNode_steady (host : Host) (config : Config) {parts : List (String × Part)}
    (h : ∀ m ∈ parts, m.2.Steady) : (buildNode host config parts).Steady := by
  unfold buildNode
  split
  · exact reportError_steady _ _
  · split
    · exact reportError_steady _ _
    · exact contained_steady _ _ (Build.run_steady _ (.mk (.pure _) (by simp) h) _)

theorem Host.rendersSteady (host : Host) : host.Renders Pass.Steady :=
  ⟨reportError_steady, fun config _ => buildNode_steady host config⟩

theorem partedMembers_steady (host : Host) (members : List (String × Json)) :
    ∀ m ∈ partedMembers host members, m.2.Steady :=
  partedMembers_all host.rendersSteady members

theorem Host.render_steady (host : Host) (v : Json) : (host.render v).Steady :=
  (parted_all host.rendersSteady v).render

end ServerUi
