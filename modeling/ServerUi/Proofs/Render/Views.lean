import ServerUi.Proofs.Builder.Kinds
import ServerUi.Proofs.Render.Document
import ServerUi.Proofs.Widget.Views

/-! The views of rendered trees. A card is rendered around its padding, so that the padding is a
node of its own, and the three views agree on it as on every other node. -/

namespace ServerUi

namespace Widget

/-- A padding is all that is directly below. -/
def Padded (w : Widget) : Prop := ∃ p : Widget, p.kind = "padding" ∧ w.children = [p]

/-- The padding of a card is behind it in the walk and alone below it in the two other views. -/
def PaddingShown (w : Widget) : Prop :=
  ∃ p : Widget, p.kind = "padding" ∧ w.walk = w :: p.walk ∧
    w.summary.nodesBelow = [p.summary] ∧ w.labels.branches = [p.labels]

theorem Padded.shown {w : Widget} (h : w.Padded) : w.PaddingShown := by
  obtain ⟨p, hkind, hchildren⟩ := h
  have hbelow := w.views_below
  rw [hchildren, List.flatMap_singleton] at hbelow
  exact ⟨p, hkind, hbelow⟩

def CardsPadded (w : Widget) : Prop := ∀ x ∈ w.walk, x.kind = "card" → x.Padded

theorem CardsPadded.of_children {w : Widget} (hself : w.kind = "card" → w.Padded)
    (hbelow : ∀ c ∈ w.children, c.CardsPadded) : w.CardsPadded := by
  intro x hx
  rw [walk_eq] at hx
  rcases List.mem_cons.mp hx with rfl | hx
  · exact hself
  · obtain ⟨c, hc, hx⟩ := List.mem_flatMap.mp hx
    exact hbelow c hc x hx

theorem cardsPadded_leaf (l : Leaf) : (leaf l).CardsPadded :=
  .of_children (fun h => absurd h (l.kind_ne_wrapper (.card .zero none))) nofun

theorem cardsPadded_wrapper {w : Wrapper} {child : Option Widget} (hkind : w.kind ≠ "card")
    (hchild : ∀ c ∈ child, c.CardsPadded) : (wrapper w child).CardsPadded :=
  .of_children (fun h => absurd h hkind) fun c hc => hchild c (Option.mem_toList.mp hc)

theorem cardsPadded_group (g : Group) {ws : List Widget} (h : ∀ c ∈ ws, c.CardsPadded) :
    (group g ws).CardsPadded :=
  .of_children (fun hkind => absurd hkind.symm (Wrapper.kind_ne_group (.card .zero none) g)) h

end Widget

/-- What a node that fits its type is shown as, once its child and its items are there. -/
theorem Content.Fits.cardsPadded {refuses : Bool} {tag : String} {c : Content}
    (h : c.Fits refuses tag) (key : String) (value : Seed → Json) {child : Option Widget}
    {items : List Widget} (hchild : ∀ w ∈ child, w.CardsPadded)
    (hitems : ∀ w ∈ items, w.CardsPadded) : (c.widget key value child items).CardsPadded := by
  cases h with
  | leaf | image | field | checkbox | dropdown => exact Widget.cardsPadded_leaf _
  | placeholder p =>
    refine Widget.cardsPadded_wrapper (by simp [Wrapper.kind]) ?_
    rintro _ ⟨⟩
    exact Widget.cardsPadded_leaf _
  | single hkind htag =>
    refine Widget.cardsPadded_wrapper ?_ hchild
    rw [hkind]
    rintro rfl
    exact absurd htag (by decide)
  | card elevation margin insets =>
    refine .of_children (fun _ => ⟨_, rfl, rfl⟩) (List.forall_mem_singleton.mpr ?_)
    exact Widget.cardsPadded_wrapper (by simp [Wrapper.kind]) hchild
  | group => exact Widget.cardsPadded_group _ hitems

/-- In a tree that the standard builders make, every card comes with its padding. -/
theorem renders_cardsPadded (images : Option (ImageSource → Report Bool)) (v : Json) :
    ∀ path s, ∀ w ∈ ((Host.standard images).render v path s).value, w.CardsPadded := by
  induction v using form_induction images with
  | refused v e hv =>
    intro path s
    rw [render_refused hv, reportError_run]
    rintro _ ⟨⟩
    exact Widget.cardsPadded_leaf _
  | node config tag form htag hform hchild hitems =>
    intro path s
    rw [render_value htag hform]
    rcases hc : form.content with fault | _ | c
    · rintro _ ⟨⟩
      exact Widget.cardsPadded_leaf _
    · exact fun w hw => nomatch hw
    · rintro _ ⟨⟩
      exact (ofTag?_fits hform c hc).cardsPadded _ _ (Host.renderChild_forall _ hchild _ _)
        (Host.renderItems_forall _ hitems _ _ _)

/-- A host may have builders of its own, as long as its cards are the standard ones. -/
theorem card_padded {host : Host} {config : Config} {path : Path} {s : Store} {w : Widget}
    (hbuilder : host.registry.lookup "card" = some Builder.card)
    (htag : config.name? "type" = some "card")
    (hw : w ∈ (host.render (.obj config) path s).value) (hkind : w.kind = "card") : w.Padded := by
  have hrun := runs_wrapping host.images config (Form.cardOpening config) (host.nodePart config) rfl
  rw [← card_eq] at hrun
  rw [host.render_node htag hbuilder, contained_run, hrun] at hw
  dsimp only at hw
  rw [(Form.pass_run ..).1] at hw
  rcases hc : (Form.wrapper (Form.cardOpening config)).content with fault | _ | c <;>
    rw [hc] at hw <;> cases hw
  · exact absurd hkind (by simp [Widget.error, Widget.kind, Leaf.kind])
  · have hfits : c.Fits false "card" := card_fits config false c hc
    obtain ⟨outer, inner, rfl⟩ := hfits.exists_wrapper (by decide)
    cases hfits with
    | single _ htag => exact absurd htag (by decide)
    | card elevation margin insets => exact ⟨_, rfl, rfl⟩

namespace Widget

/-- The walk, the summary and the labels describe one tree: directly below a node each of them goes
on with the children, in order; read in order they have the same kinds and the same labels; and at
any address there is a node in all of them or in none. They are the same whether or not images keep
a box for later, below an image there is nothing, and the padding of a card is a node in each. -/
theorem views_agree (w : Widget) :
    (w.walk = w :: w.children.flatMap walk ∧
      w.summary.nodesBelow = w.children.map summary ∧
      w.labels.branches = w.children.map labels) ∧
    (w.summary.shownNodes.map Json.kindShown = w.walk.map (fun x => .str x.kind) ∧
      w.labels.inOrder.map Labels.label = w.walk.map label) ∧
    (∀ address : List Nat,
      (descend Json.nodesBelow address w.summary).map Json.kindShown =
        (descend children address w).map (fun x => .str x.kind) ∧
      (descend Labels.branches address w.labels).map Labels.label =
        (descend children address w).map label) ∧
    (w.withoutPlaceholders.walk = w.walk.map withoutPlaceholders ∧
      w.withoutPlaceholders.summary = w.summary ∧ w.withoutPlaceholders.labels = w.labels ∧
      (∀ v ∈ w.summary.shownNodes, v.config.lookup "error_placeholder" = none) ∧
      ∀ x ∈ w.walk, x.kind = "image" →
        x.walk = [x] ∧ x.summary.nodesBelow = [] ∧ x.labels.branches = []) ∧
    (∀ (host : Host) (config : Config) (path : Path) (s : Store),
      host.registry.lookup "card" = some Builder.card → config.name? "type" = some "card" →
      w ∈ (host.render (.obj config) path s).value → w.kind = "card" → w.PaddingShown) ∧
    ∀ (images : Option (ImageSource → Report Bool)) (document : Json) (path : Path) (s : Store),
      w ∈ ((Host.standard images).render document path s).value →
      ∀ x ∈ w.walk, x.kind = "card" → x.PaddingShown := by
  refine ⟨w.views_below, ⟨w.map_kindShown_shownNodes, w.map_label_inOrder⟩,
    fun address => ⟨kindShown_descend address w, label_descend address w⟩,
    ⟨w.walk_mapLeaves, w.summary_withoutPlaceholders, w.labels_withoutPlaceholders,
      fun v hv => lookup_placeholder_shownNodes hv, fun x _ hkind => ?_⟩,
    fun host config path s hbuilder htag hw hkind => (card_padded hbuilder htag hw hkind).shown,
    fun images document path s hw x hx hkind =>
      (renders_cardsPadded images document path s w hw x hx hkind).shown⟩
  have hbelow := x.views_below
  rw [children_of_kind_image hkind] at hbelow
  exact hbelow

theorem views_agree_card :
    let image := leaf (.image (.asset "logo.png") none none none (some (.ofSize none none)))
    let padding := wrapper (.padding (.all .zero)) (some image)
    let card := wrapper (.card .zero none) (some padding)
    let document := Json.obj [("type", .str "card"), ("elevation", .float .zero),
      ("padding", .float .zero),
      ("child", .obj [("type", .str "image"), ("asset", .str "logo.png")])]
    ((Host.standard none).render document [] .ephemeral).value = some card ∧
    card.walk.map kind = ["card", "padding", "image"] ∧
    card.summary.shownNodes.map Json.kindShown = [.str "card", .str "padding", .str "image"] ∧
    (descend Labels.branches [0, 0] card.labels).map Labels.label = some image.label ∧
    image.summary.nodesBelow = [] ∧ card.PaddingShown := by
  intro image padding card document
  have himage : ((Host.standard none).render (.obj [("type", .str "image"),
      ("asset", .str "logo.png")]) ["card", "child"] .ephemeral).value = some image := by
    have htag : Config.name? [("type", .str "image"), ("asset", .str "logo.png")] "type" =
        some "image" := rfl
    rw [render_value htag rfl]
    rfl
  have hrender : ((Host.standard none).render document [] .ephemeral).value = some card := by
    have htag : document.config.name? "type" = some "card" := rfl
    refine (render_value htag rfl [] .ephemeral).trans ?_
    exact congrArg (fun child => some (wrapper (.card .zero none)
      (some (wrapper (.padding (.all .zero)) child)))) himage
  obtain ⟨-, hkinds, haddress, hplaceholder, -, hpadding⟩ := views_agree card
  have hmem : image ∈ card.walk := List.mem_of_getElem? (i := 2) rfl
  exact ⟨hrender, rfl, hkinds.1.trans rfl, (haddress [0, 0]).2.trans rfl,
    (hplaceholder.2.2.2.2 image hmem rfl).2.1,
    hpadding none document [] .ephemeral hrender card List.mem_cons_self rfl⟩

end Widget

end ServerUi
