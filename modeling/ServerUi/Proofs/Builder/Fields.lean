import ServerUi.Proofs.Builder.Standard

/-! The standard builders read the fields of their own node. The value under `child` and the items
under `children` are only handed on to be rendered, so the form of a node does not hang on them. -/

namespace ServerUi

/-- The same fields, `child` and the items of `children` apart. -/
structure Config.Agree (config other : Config) : Prop where
  get_eq : ∀ key, key ≠ "child" → key ≠ "children" → config.get key = other.get key
  children_eq : config.get "children" = other.get "children" ∨
    ∃ items others, config.get "children" = .arr items ∧ other.get "children" = .arr others

section Agree

variable {config other : Config} (h : config.Agree other)

include h

theorem Config.Agree.name?_eq {key : String} (hchild : key ≠ "child")
    (hchildren : key ≠ "children") : config.name? key = other.name? key := by
  rw [Config.name?, Config.name?, h.get_eq key hchild hchildren]

theorem Config.Agree.identity_eq (path : Path) : identity config path = identity other path := by
  rw [identity, identity, h.name?_eq (by decide) (by decide)]

theorem still_agree {tag : String} {b : Builder} (hb : (tag, b) ∈ Form.stillBuilders) :
    b config = b other := by
  simp only [Form.stillBuilders, List.mem_cons, List.not_mem_nil, or_false, Prod.mk.injEq] at hb
  rcases hb with ⟨-, rfl⟩ | ⟨-, rfl⟩ | ⟨-, rfl⟩ | ⟨-, rfl⟩ | ⟨-, rfl⟩ | ⟨-, rfl⟩
  · simp (disch := decide) only [Builder.text, Config.text, h.get_eq]
  · simp (disch := decide) only [Builder.richText, Config.array, h.get_eq]
  · simp (disch := decide) only [Builder.button, Config.text, h.get_eq]
  · simp (disch := decide) only [Builder.image, Builder.imageSource, Config.text, h.get_eq]
  · simp (disch := decide) only [Builder.icon, Config.text, h.get_eq]
  · simp (disch := decide) only [Builder.divider, h.get_eq]

theorem array_bind_agree {f : Option (List Json) → Report β}
    (hf : ∀ items others, f (some items) = f (some others)) :
    (liftM (config.array "children") >>= f : Report β) = liftM (other.array "children") >>= f := by
  -- A node without an array ends here, or in a fault that names the value: then both are the same.
  rcases h.children_eq with heq | ⟨items, others, hitems, hothers⟩
  · rw [Config.array, Config.array, heq]
  · rw [Config.array, Config.array, hitems, hothers]
    exact congrArg (fun r : Report β => (⟨[] ++ r.notices, r.outcome⟩ : Report β))
      (hf items others)

theorem flexOpening_agree (axis : Axis) :
    Form.flexOpening axis config = Form.flexOpening axis other := by
  rw [Form.flexOpening, Form.flexOpening, array_bind_agree h fun _ _ => rfl]
  simp (disch := decide) only [h.get_eq]

theorem listOpening_agree : Form.listOpening config = Form.listOpening other := by
  rw [Form.listOpening, Form.listOpening, array_bind_agree h fun _ _ => rfl]
  simp (disch := decide) only [Config.boolean, h.get_eq]

/-- The form of a node hangs on its own fields. -/
theorem ofTag?_agree (images : Option (ImageSource → Report Bool)) (tag : String) :
    Form.ofTag? images tag config = Form.ofTag? images tag other := by
  unfold Form.ofTag?
  split
  case h_1 => rw [flexOpening_agree h]
  case h_2 => rw [flexOpening_agree h]
  case h_3 => rw [listOpening_agree h]
  case h_4 => simp (disch := decide) only [Form.containerOpening, h.get_eq]
  case h_5 => rfl
  case h_6 => simp (disch := decide) only [Form.sizedBoxOpening, h.get_eq]
  case h_7 => simp (disch := decide) only [Form.cardOpening, Config.number, h.get_eq]
  case h_8 => simp (disch := decide) only [Form.textFieldReading, Config.text, h.get_eq]
  case h_9 =>
    simp (disch := decide) only [Form.checkboxSeed, Config.text, Config.boolean, h.get_eq]
  case h_10 =>
    simp (disch := decide) only [Form.dropdownSeed, Config.array, Config.text, h.get_eq]
  case h_11 =>
    cases hb : Form.stillBuilders.lookup tag with
    | none => rfl
    | some b => simp only [Option.map_some, still_agree h (mem_of_lookup hb)]

end Agree

end ServerUi
