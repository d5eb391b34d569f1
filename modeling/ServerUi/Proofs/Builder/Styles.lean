import ServerUi.Proofs.Builder.Restyled

/-! All style fields of a node, in whatever object of it they stand: what its builder makes of the
node with another value in one of them, and what of the node hangs on none of them. -/

namespace ServerUi

open Style

/-- Whether an item is shown as a span of a rich text. -/
def Json.isSpan : Json → Bool
  | .obj span =>
    match Config.get span "text" with
    | .str _ => true
    | _ => false
  | _ => false

theorem Json.exists_of_isSpan {v : Json} (h : v.isSpan = true) :
    ∃ (span : Config) (content : String), v = .obj span ∧ span.get "text" = .str content := by
  cases v with
  | obj span =>
    rw [isSpan] at h
    split at h
    · next content htext => exact ⟨span, content, rfl, htext⟩
    · cases h
  | _ => cases h

theorem spans_cons_of_isSpan_false {v : Json} (h : v.isSpan = false) (rest : List Json) :
    Builder.spans (v :: rest) = Builder.spans rest := by
  cases v with
  | obj span =>
    rw [Builder.spans]
    rw [Json.isSpan] at h
    split
    · next content htext =>
      rw [htext] at h
      cases h
    · rfl
  | _ => rfl

theorem spans_cons_of_text {span : Config} {content : String}
    (h : span.get "text" = .str content) (rest : List Json) :
    Builder.spans (.obj span :: rest) = do
      let style ← textStyle (span.get "style")
      return ⟨content, style⟩ :: (← Builder.spans rest) := by
  rw [Builder.spans, h]

theorem spans_set {items : List Json} {i : Nat} {span other : Config} {content : String}
    (hspan : items[i]? = some (.obj span)) (htext : span.get "text" = .str content)
    (hother : span.Apart "style" other) {a : Option TextStyle}
    (ha : (textStyle (other.get "style")).outcome = .ok a) :
    (Builder.spans items).Matched
      (fun spans spans' => spans' = spans.modify ((items.take i).countP Json.isSpan)
        fun span => { span with style := a })
      (Builder.spans (items.set i (.obj other))) := by
  -- The items in front that are no spans do not count for the place of the span.
  induction items generalizing i with
  | nil => cases hspan
  | cons v rest ih =>
    cases i with
    | zero =>
      obtain rfl := Option.some.inj hspan
      have htext' : other.get "text" = .str content := by rw [hother "text" (by decide), htext]
      rw [List.set_cons_zero, spans_cons_of_text htext, spans_cons_of_text htext']
      exact .read ha fun _ => .same fun _ => .pure rfl
    | succ i =>
      rw [List.set_cons_succ, List.take_succ_cons, List.countP_cons]
      have hrest := ih hspan
      cases hv : v.isSpan with
      | true =>
        obtain ⟨first, text, rfl, hfirst⟩ := Json.exists_of_isSpan hv
        rw [spans_cons_of_text hfirst, spans_cons_of_text hfirst]
        refine .same fun style => .bind hrest ?_
        rintro found _ rfl
        exact .pure rfl
      | false =>
        rw [spans_cons_of_isSpan_false hv, spans_cons_of_isSpan_false hv]
        exact hrest

theorem richText_of_items {config : Config} {items : List Json}
    (h : config.get "spans" = .arr items) (hne : items ≠ []) :
    Builder.richText config = do
      let found ← Builder.spans items
      let align ← choice TextAlign (config.get "textAlign")
      return some (.leaf (.richText found (align.getD .start))) := by
  have harray : config.array "spans" = .ok (some items) := by rw [Config.array, h]
  rw [Builder.richText, harray]
  cases items with
  | nil => exact absurd rfl hne
  | cons item rest => rfl

/-- The style fields that are read for a node: its own, those of its spans, and those in an object
that one of these is read from. Each comes with what becomes of the node if another value is put in
the field, or if the field is left out. -/
inductive StyleField.Of (tag : String) (config : Config) :
    {α : Type} → StyleField Widget α → (Option Json → Config) → Prop where
  | own {α : Type} {key : String} {field : StyleField Widget α} (h : field.Own tag key) :
      Of tag config field (config.assign key)
  | span {items : List Json} {i : Nat} {span : Config} {content : String} (htag : tag = "richText")
      (hitems : config.get "spans" = .arr items) (hspan : items[i]? = some (.obj span))
      (htext : span.get "text" = .str content) :
      Of tag config
        ⟨textStyle, none, Widget.setSpanStyle ((items.take i).countP Json.isSpan)⟩
        fun o => config.put "spans" (.arr (items.set i (.obj (span.assign "style" o))))
  | inner {α ω : Type} {read : Json → Report (Option ω)} {set : Option ω → Widget → Widget}
      {edit : Option Json → Config} {members : Config} {key : String} {field : StyleField ω α}
      {s : ω} (h : Of tag config ⟨read, none, set⟩ edit)
      (hmembers : edit (some (.obj members)) = config)
      (hs : (read (.obj members)).outcome = .ok (some s)) (hfield : field.Inner read key) :
      Of tag config ⟨field.read, field.unset, fun a => set (some (field.set a s))⟩
        fun o => edit (some (.obj (members.assign key o)))

theorem richText_span (images : Option (ImageSource → Report Bool)) {config : Config}
    {items : List Json} {i : Nat} {span other : Config} {content : String}
    (hitems : config.get "spans" = .arr items) (hspan : items[i]? = some (.obj span))
    (htext : span.get "text" = .str content) (hother : span.Apart "style" other)
    {a : Option TextStyle} (ha : (textStyle (other.get "style")).outcome = .ok a) :
    (Builder.richText config).Matched images
      (fun w w' => w' = w.map (Widget.setSpanStyle ((items.take i).countP Json.isSpan) a))
      (Builder.richText (config.put "spans" (.arr (items.set i (.obj other))))) := by
  have hne : items ≠ [] := by
    rintro rfl
    cases hspan
  have hput : (config.put "spans" (.arr (items.set i (.obj other)))).get "spans" =
      .arr (items.set i (.obj other)) := by
    rw [Config.get_put, if_pos rfl]
  have halign := config.apart_put "spans" (.arr (items.set i (.obj other))) "textAlign" (by decide)
  rw [richText_of_items hitems hne, richText_of_items hput (by simpa using hne), halign]
  refine .bind (.lift (spans_set hspan htext hother ha)) ?_
  rintro found _ rfl
  exact .same fun _ => .pure rfl

namespace StyleField.Of

variable {α : Type} {tag : String} {config : Config} {field : StyleField Widget α}
  {edit : Option Json → Config}

theorem read_null (h : Of tag config field edit) :
    (field.read .null).outcome = .ok field.unset := by
  cases h with
  | own h => exact h.read_null
  | span => rfl
  | inner _ _ _ hfield => exact hfield.read_null

/-- What a node is, where it is and what is below it hangs on no style field. -/
theorem keeps (h : Of tag config field edit) (o : Option Json) {k : String}
    (hk : k ∈ ["type", "id", "child", "children"]) : (edit o).get k = config.get k := by
  induction h generalizing o with
  | own h => exact h.keeps (config.apart_assign _ o) k (List.mem_append_left _ hk)
  | span =>
    refine config.apart_put "spans" _ k ?_
    rintro rfl
    exact absurd hk (by decide)
  | inner _ _ _ _ ih => exact ih _

theorem exists_content (h : Of tag config field edit)
    {images : Option (ImageSource → Report Bool)} {form : Form} {c : Content}
    (hform : Form.ofTag? images tag config = some form) (hc : form.content = .ok (some c))
    {o : Option Json} {a : α} (ha : (field.read (o.getD .null)).outcome = .ok a) :
    ∃ form' c', Form.ofTag? images tag (edit o) = some form' ∧ form'.content = .ok (some c') ∧
      c'.reach = c.reach ∧ ∀ key value child items,
        c'.widget key value child items = field.set a (c.widget key value child items) := by
  induction h generalizing o with
  | @own _ key field h =>
    have hget : (config.assign key o).get key = o.getD .null := by
      rw [Config.get_assign, if_pos rfl]
    obtain ⟨_, form', hform₀, hform', hrestyled⟩ :=
      h.exists_restyled images (config.apart_assign key o) (hget ▸ ha)
    obtain rfl := Option.some.inj (hform₀.symm.trans hform)
    obtain ⟨c', hc'⟩ := hrestyled.exists_content hc
    exact ⟨form', c', hform', hc'⟩
  | @span items i span content htag hitems hspan htext =>
    subst htag
    have hget : (span.assign "style" o).get "style" = o.getD .null := by
      rw [Config.get_assign, if_pos rfl]
    obtain rfl := Option.some.inj hform
    have hmatched := richText_span images hitems hspan htext
      (span.apart_assign "style" o) (hget ▸ ha)
    obtain ⟨c', hc'⟩ := (Form.Restyled.still hmatched).exists_content hc
    exact ⟨_, c', rfl, hc'⟩
  | @inner _ _ read set edit members key field s _ _ hs hfield ih =>
    have hget : (members.assign key o).get key = o.getD .null := by
      rw [Config.get_assign, if_pos rfl]
    have hread := hfield.read_object (members.apart_assign key o) hs (hget ▸ ha)
    exact @ih (some (.obj (members.assign key o))) _ hread

end StyleField.Of

end ServerUi
