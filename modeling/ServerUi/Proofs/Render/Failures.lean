import Mathlib.Data.List.Nodup
import ServerUi.Proofs.Render.Identity
import ServerUi.Proofs.Render.Visited

/-! The nodes of a document that cannot be built. A node below one that fails behind its child is
rendered all the same, so a failure may stand below another. Those that stand below no other are the
ones that are shown. -/

namespace ServerUi

/-- A node that cannot be built: where it stands, and why. -/
structure Failure where
  position : List Slot
  error : NodeError

/-- The failure of a part, as one of the node around the slot. -/
def Failure.below (slot : Slot) (n : Failure) : Failure :=
  { n with position := slot :: n.position }

/-- The failures that stand below none of the others. -/
def topmost (nodes : List Failure) : List Failure :=
  nodes.filter fun n => ∀ m ∈ nodes, m.position <+: n.position → m.position = n.position

section Topmost

variable {nodes others : List Failure} {n : Failure}

theorem mem_topmost :
    n ∈ topmost nodes ↔
      n ∈ nodes ∧ ∀ m ∈ nodes, m.position <+: n.position → m.position = n.position := by
  rw [topmost, List.mem_filter, decide_eq_true_iff]

theorem topmost_sublist (nodes : List Failure) : (topmost nodes).Sublist nodes :=
  List.filter_sublist

theorem topmost_below (slot : Slot) (nodes : List Failure) :
    topmost (nodes.map (Failure.below slot)) = (topmost nodes).map (Failure.below slot) := by
  rw [topmost, topmost, List.filter_map]
  refine congrArg _ (List.filter_congr fun n _ => decide_eq_decide.mpr ?_)
  simp only [List.forall_mem_map, Failure.below, List.prefix_cons_inj, List.cons.injEq, true_and]

theorem topmost_append
    (h : ∀ n ∈ nodes, ∀ m ∈ others, ¬ n.position <+: m.position ∧ ¬ m.position <+: n.position) :
    topmost (nodes ++ others) = topmost nodes ++ topmost others := by
  rw [topmost, List.filter_append]
  refine congrArg₂ _ (List.filter_congr fun n hn => decide_eq_decide.mpr ?_)
    (List.filter_congr fun m hm => decide_eq_decide.mpr ?_)
  · rw [List.forall_mem_append]
    exact and_iff_left fun m hm hpre => absurd hpre (h n hn m hm).2
  · rw [List.forall_mem_append]
    exact and_iff_right fun n hn hpre => absurd hpre (h n hn m hm).1

/-- Failures in different slots do not stand below one another. -/
theorem topmost_flatMap {parts : List (Slot × Json)} (h : (parts.map Prod.fst).Nodup)
    (f : Json → List Failure) :
    topmost (parts.flatMap fun part => (f part.2).map (Failure.below part.1)) =
      parts.flatMap fun part => (topmost (f part.2)).map (Failure.below part.1) := by
  induction parts with
  | nil => rfl
  | cons part rest ih =>
    obtain ⟨hnew, hrest⟩ := List.nodup_cons.mp h
    rw [List.flatMap_cons, List.flatMap_cons, topmost_append, topmost_below, ih hrest]
    intro n hn m hm
    obtain ⟨a, -, rfl⟩ := List.mem_map.mp hn
    obtain ⟨other, hother, hm⟩ := List.mem_flatMap.mp hm
    obtain ⟨b, -, rfl⟩ := List.mem_map.mp hm
    have hslots : part.1 ≠ other.1 := fun heq => hnew (heq ▸ List.mem_map_of_mem hother)
    simp only [Failure.below, List.cons_prefix_cons, not_and]
    exact ⟨fun heq => absurd heq hslots, fun heq => absurd heq.symm hslots⟩

/-- A failure of the node itself stands above all others. -/
theorem topmost_root (h : ∀ n ∈ nodes, n.position ≠ []) (e : NodeError) :
    topmost (nodes ++ [⟨[], e⟩]) = [⟨[], e⟩] := by
  rw [topmost, List.filter_append]
  have hbelow : nodes.filter (fun n => ∀ m ∈ nodes ++ [⟨[], e⟩],
      m.position <+: n.position → m.position = n.position) = [] := by
    refine List.filter_eq_nil_iff.mpr fun n hn htop => h n hn ?_
    have hroot := of_decide_eq_true htop ⟨[], e⟩ (by simp) List.nil_prefix
    exact hroot.symm
  rw [hbelow, List.nil_append]
  refine List.filter_eq_self.mpr fun n hn => decide_eq_true fun m _ hpre => ?_
  obtain rfl := List.mem_singleton.mp hn
  exact List.prefix_nil.mp hpre

theorem exists_topmost (h : n ∈ nodes) :
    ∃ m ∈ topmost nodes, m.position <+: n.position := by
  -- Going up, positions get shorter.
  induction hlength : n.position.length using Nat.strongRecOn generalizing n with
  | ind k ih =>
    subst hlength
    by_cases htop : n ∈ topmost nodes
    · exact ⟨n, htop, List.prefix_refl _⟩
    · have habove : ∃ m ∈ nodes, m.position <+: n.position ∧ m.position ≠ n.position := by
        by_contra hnone
        refine htop (mem_topmost.mpr ⟨h, fun m hm hpre => ?_⟩)
        by_contra hne
        exact hnone ⟨m, hm, hpre, hne⟩
      obtain ⟨m, hm, hpre, hne⟩ := habove
      have hshorter : m.position.length < n.position.length :=
        Nat.lt_of_le_of_ne hpre.length_le fun heq => hne (hpre.eq_of_length heq)
      obtain ⟨top, htop, hmore⟩ := ih _ hshorter hm rfl
      exact ⟨top, htop, hmore.trans hpre⟩

theorem exists_topmost_above (h : n ∈ nodes) (hhidden : n ∉ topmost nodes) :
    ∃ m ∈ topmost nodes, m.position <+: n.position ∧ m.position ≠ n.position := by
  obtain ⟨m, hm, hpre⟩ := exists_topmost h
  refine ⟨m, hm, hpre, fun heq => hhidden ?_⟩
  have htop := (mem_topmost.mp hm).2
  rw [heq] at htop
  exact mem_topmost.mpr ⟨h, htop⟩

end Topmost

/-- Items from an index on, each with its slot. -/
def slotted (i : Nat) (items : List Json) : List (Slot × Json) :=
  (items.zipIdx i).map fun u => (.item u.2, u.1)

/-- What is rendered below a node that gets so far: the objects in its slots. -/
def Form.Reach.parts (config : Config) : Form.Reach → List (Slot × Json)
  | child => [(.child, config.get "child")].filter fun part => part.2.isObject
  | items => (slotted 0 (config.get "children").items).filter fun part => part.2.isObject
  | _ => []

section Parts

variable {reach : Form.Reach} {config : Config} {part : Slot × Json}

theorem get?_of_mem_parts (h : part ∈ reach.parts config) :
    part.1.get? config = some part.2 := by
  cases reach with
  | child =>
    obtain ⟨hpart, hobject⟩ := List.mem_filter.mp h
    obtain rfl := List.mem_singleton.mp hpart
    change (config.get "child").isObject = true at hobject
    change config.lookup "child" = some (config.get "child")
    rw [Config.get] at hobject ⊢
    cases hlookup : config.lookup "child" with
    | none =>
      rw [hlookup] at hobject
      cases hobject
    | some v => rfl
  | items =>
    obtain ⟨u, hu, rfl⟩ := List.mem_map.mp (List.mem_filter.mp h).1
    exact List.mem_zipIdx_iff_getElem?.mp hu
  | _ => cases h

theorem nodup_parts (reach : Form.Reach) (config : Config) :
    ((reach.parts config).map Prod.fst).Nodup := by
  cases reach with
  | child => exact (List.nodup_singleton Slot.child).sublist (List.filter_sublist.map Prod.fst)
  | items =>
    have hslots : (slotted 0 (config.get "children").items).map Prod.fst =
        ((config.get "children").items.zipIdx.map Prod.snd).map Slot.item := by
      rw [slotted, List.map_map, List.map_map]
      rfl
    have hnodup : ((slotted 0 (config.get "children").items).map Prod.fst).Nodup := by
      rw [hslots, List.zipIdx_map_snd]
      exact List.Nodup.map (fun _ _ heq => Slot.item.inj heq) List.nodup_range'
    exact hnodup.sublist (List.filter_sublist.map Prod.fst)
  | _ => exact List.nodup_nil

theorem sizeOf_part_lt {v : Json} (h : part ∈ reach.parts v.config) :
    sizeOf part.2 < sizeOf v := by
  obtain ⟨slot, u⟩ := part
  obtain ⟨config, rfl, hget⟩ := Json.exists_config_of_get? (get?_of_mem_parts h)
  cases slot with
  | child =>
    have hlookup : config.lookup "child" = some u := hget
    have hchild : Config.get config "child" = u := by rw [Config.get, hlookup, Option.getD_some]
    exact hchild ▸ Json.sizeOf_get_lt config "child"
  | item i =>
    have hitem : u ∈ (Config.get config "children").items := List.mem_of_getElem? hget
    exact Nat.lt_trans (Json.sizeOf_item_lt hitem) (Json.sizeOf_get_lt config "children")

end Parts

/-- The failure of a node itself, if it is one. -/
def ownFailure (images : Option (ImageSource → Report Bool)) (v : Json) : List Failure :=
  match fate images v with
  | .error e => [⟨[], e⟩]
  | _ => []

/-- The nodes that cannot be built when a value is rendered, each behind those below it. -/
def failedNodes (images : Option (ImageSource → Report Bool)) (v : Json) : List Failure :=
  (((reachOf images v).parts v.config).attach.flatMap fun part =>
    (failedNodes images part.1.2).map (Failure.below part.1.1)) ++ ownFailure images v
termination_by sizeOf v
decreasing_by exact sizeOf_part_lt part.2

section Failures

variable {images : Option (ImageSource → Report Bool)} {config : Config}

/-- The failures of parts of a node. -/
def failedIn (images : Option (ImageSource → Report Bool)) (parts : List (Slot × Json)) :
    List Failure :=
  parts.flatMap fun part => (failedNodes images part.2).map (Failure.below part.1)

theorem failedNodes_eq (v : Json) :
    failedNodes images v =
      failedIn images ((reachOf images v).parts v.config) ++ ownFailure images v := by
  rw [failedNodes, failedIn]
  congr 1
  exact (List.flatMap_subtype fun _ _ => rfl).trans (congrArg _ List.unattach_attach)

theorem failedNodes_refused {v : Json} {e : NodeError} (h : Refused images v e) :
    failedNodes images v = [⟨[], e⟩] := by
  rw [failedNodes_eq, reachOf_refused h, ownFailure, fate_refused h]
  rfl

theorem failedNodes_form {tag : String} {form : Form} (htag : config.name? "type" = some tag)
    (hform : Form.ofTag? images tag config = some form) :
    failedNodes images (.obj config) =
      failedIn images (form.reach.parts config) ++
        match form.content with
        | .error fault => [⟨[], .failed fault⟩]
        | .ok _ => [] := by
  rw [failedNodes_eq, reachOf_form htag hform, ownFailure, fate_form htag hform, Json.config]
  rcases form.content with fault | _ | c <;> rfl

theorem of_mem_ownFailure {v : Json} {n : Failure} (h : n ∈ ownFailure images v) :
    n.position = [] ∧ fate images v = .error n.error := by
  rw [ownFailure] at h
  split at h
  · next e hfate =>
    obtain rfl := List.mem_singleton.mp h
    exact ⟨rfl, hfate⟩
  · cases h

theorem mem_failedIn {parts : List (Slot × Json)} {n : Failure} :
    n ∈ failedIn images parts ↔
      ∃ part ∈ parts, ∃ m ∈ failedNodes images part.2, m.below part.1 = n := by
  simp only [failedIn, List.mem_flatMap, List.mem_map]

theorem position_ne_nil {parts : List (Slot × Json)} {n : Failure}
    (h : n ∈ failedIn images parts) : n.position ≠ [] := by
  obtain ⟨part, -, m, -, rfl⟩ := mem_failedIn.mp h
  exact List.cons_ne_nil _ _

/-- The messages that are shown of parts are those of one part after the other. -/
theorem messages_failedIn {parts : List (Slot × Json)} (hslots : (parts.map Prod.fst).Nodup) :
    (topmost (failedIn images parts)).map (fun n => n.error.message) =
      parts.flatMap fun part =>
        (topmost (failedNodes images part.2)).map fun n => n.error.message := by
  rw [failedIn, topmost_flatMap hslots, List.map_flatMap]
  refine List.flatMap_congr fun part _ => ?_
  rw [List.map_map]
  rfl

/-- Induction on a document: a node is reached from the parts that are rendered below it. -/
theorem parts_induction (images : Option (ImageSource → Report Bool)) {motive : Json → Prop}
    (node : ∀ v, (∀ part ∈ (reachOf images v).parts v.config, motive part.2) → motive v)
    (v : Json) : motive v := by
  induction h : sizeOf v using Nat.strongRecOn generalizing v with
  | ind n ih =>
    subst h
    exact node v fun part hpart => ih _ (sizeOf_part_lt hpart) _ rfl

/-- Where there is a failure, there is a node that cannot be built. -/
theorem fate_of_mem_failedNodes {v : Json} {n : Failure} (h : n ∈ failedNodes images v) :
    ∃ u, v.at? n.position = some u ∧ fate images u = .error n.error := by
  induction v using parts_induction images generalizing n with
  | node v ih =>
    rw [failedNodes_eq] at h
    rcases List.mem_append.mp h with hbelow | hown
    · obtain ⟨part, hpart, m, hm, rfl⟩ := mem_failedIn.mp hbelow
      obtain ⟨u, hu, hfate⟩ := ih part hpart hm
      refine ⟨u, ?_, hfate⟩
      rw [Failure.below, Json.at?, get?_of_mem_parts hpart, Option.bind_some, hu]
    · obtain ⟨hroot, hfate⟩ := of_mem_ownFailure hown
      exact ⟨v, by rw [hroot, Json.at?], hfate⟩

theorem nodup_failedIn {parts : List (Slot × Json)} (hslots : (parts.map Prod.fst).Nodup)
    (h : ∀ part ∈ parts, ((failedNodes images part.2).map Failure.position).Nodup) :
    ((failedIn images parts).map Failure.position).Nodup := by
  rw [failedIn, List.map_flatMap]
  refine List.nodup_flatMap.mpr ⟨fun part hpart => ?_, ?_⟩
  · have hcons : ((failedNodes images part.2).map (Failure.below part.1)).map Failure.position =
        ((failedNodes images part.2).map Failure.position).map (part.1 :: ·) := by
      rw [List.map_map, List.map_map]
      rfl
    rw [hcons]
    exact (h part hpart).map List.cons_injective
  · refine (List.pairwise_map.mp hslots).imp fun hne => ?_
    intro p hp hq
    simp only [List.map_map, List.mem_map] at hp hq
    obtain ⟨n, -, rfl⟩ := hp
    obtain ⟨m, -, heq⟩ := hq
    exact hne (List.cons.inj heq).1.symm

/-- A node fails once at most. -/
theorem nodup_positions (v : Json) : ((failedNodes images v).map Failure.position).Nodup := by
  induction v using parts_induction images with
  | node v ih =>
    have hslots := nodup_parts (reachOf images v) v.config
    have hbelow := nodup_failedIn hslots ih
    rw [failedNodes_eq, List.map_append]
    refine List.nodup_append.mpr ⟨hbelow, ?_, ?_⟩
    · rw [ownFailure]
      split <;> simp
    · intro p hp q hq heq
      obtain ⟨n, hn, rfl⟩ := List.mem_map.mp hp
      obtain ⟨m, hm, rfl⟩ := List.mem_map.mp hq
      exact position_ne_nil hn (heq.trans (of_mem_ownFailure hm).1)

end Failures

end ServerUi
