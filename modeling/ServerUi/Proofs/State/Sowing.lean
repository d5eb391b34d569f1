import ServerUi.Proofs.State.Ledger

/-! What the interactive nodes of a document do to a store of either kind, one after another. If
their identities differ, none of them meets what another one has put into the store, so they leave
it as it is when they are sown once more. -/

namespace ServerUi

namespace Store

def sowAll (s : Store) : List Input → Store
  | [] => s
  | i :: rest => (s.sown i.key i.seed).sowAll rest

def replacedAll (s : Store) : List Input → List (String × Json)
  | [] => []
  | i :: rest => s.replaced i.key i.seed ++ (s.sown i.key i.seed).replacedAll rest

section Append

variable (s : Store) (is js : List Input)

theorem sowAll_append : s.sowAll (is ++ js) = (s.sowAll is).sowAll js := by
  induction is generalizing s with
  | nil => rfl
  | cons i rest ih => exact ih (s.sown i.key i.seed)

theorem replacedAll_append :
    s.replacedAll (is ++ js) = s.replacedAll is ++ (s.sowAll is).replacedAll js := by
  induction is generalizing s with
  | nil => rfl
  | cons i rest ih =>
    have hrest := ih (s.sown i.key i.seed)
    simp only [List.cons_append, replacedAll, sowAll, hrest, List.append_assoc]

end Append

section One

variable {s : Store} {key : String} {seed : Seed}

theorem get?_sown_of_ne {k : String} (h : k ≠ key) : (s.sown key seed).get? k = s.get? k := by
  cases s with
  | ephemeral => rfl
  | memory values =>
    by_cases hadmits : (values.lookup key).any seed.admits = true
    · simp only [sown, hadmits, if_true]
    · have hput := Config.lookup_put values key seed.initial k
      rw [if_neg h] at hput
      simpa only [sown, if_neg hadmits, get?, snapshot] using hput

/-- What a node shows does not hang on whether it is sown already. -/
theorem held_sown_self : (s.sown key seed).held key seed = s.held key seed := by
  cases s with
  | ephemeral => rfl
  | memory values =>
    by_cases hadmits : (values.lookup key).any seed.admits = true
    · simp only [sown, hadmits, if_true]
    · have hput := Config.lookup_put values key seed.initial key
      have hrejected : (values.lookup key).filter seed.admits = none := by
        cases hv : values.lookup key with
        | none => rfl
        | some v =>
          rw [hv, Option.any_some] at hadmits
          rw [Option.filter_some, if_neg hadmits]
      have hkept : (some seed.initial).filter seed.admits = some seed.initial := by
        rw [Option.filter_some, if_pos seed.admits_initial]
      simp only [sown, if_neg hadmits, held, get?, snapshot, hput, if_true, hrejected, hkept,
        Option.getD_some, Option.getD_none]

end One

/-- The store has a value that the node can show, if it has values at all. -/
def Rests : Store → Input → Prop
  | ephemeral, _ => True
  | memory values, i => (values.lookup i.key).any i.seed.admits = true

section Rests

variable {s : Store} {i : Input}

theorem Rests.sown_eq (h : s.Rests i) : s.sown i.key i.seed = s := by
  cases s with
  | ephemeral => rfl
  | memory values => exact if_pos h

theorem Rests.replaced_eq (h : s.Rests i) : s.replaced i.key i.seed = [] := by
  cases s with
  | ephemeral => rfl
  | memory values =>
    obtain ⟨v, hv, hadmits⟩ := (Option.any_eq_true _ _).mp h
    have hall : ((memory values).get? i.key).all i.seed.admits = true := by
      rw [get?, snapshot, hv, Option.all_some, hadmits]
    rw [replaced, if_pos hall]

theorem rests_sown (s : Store) (i : Input) : (s.sown i.key i.seed).Rests i := by
  cases s with
  | ephemeral => trivial
  | memory values =>
    by_cases hadmits : (values.lookup i.key).any i.seed.admits = true
    · have hsame : (memory values).sown i.key i.seed = memory values := if_pos hadmits
      rw [hsame]
      exact hadmits
    · have hput := Config.lookup_put values i.key i.seed.initial i.key
      simp only [sown, if_neg hadmits, Rests, hput, if_true, Option.any_some, i.seed.admits_initial]

theorem Rests.sown_of_ne (h : s.Rests i) {j : Input} (hne : i.key ≠ j.key) :
    (s.sown j.key j.seed).Rests i := by
  cases s with
  | ephemeral => trivial
  | memory values =>
    by_cases hadmits : (values.lookup j.key).any j.seed.admits = true
    · have hsame : (memory values).sown j.key j.seed = memory values := if_pos hadmits
      rw [hsame]
      exact h
    · have hput := Config.lookup_put values j.key j.seed.initial i.key
      rw [if_neg hne] at hput
      simpa only [sown, if_neg hadmits, Rests, hput] using h

theorem Rests.sowAll (h : s.Rests i) {is : List Input} (hkey : i.key ∉ is.map Input.key) :
    (s.sowAll is).Rests i := by
  induction is generalizing s with
  | nil => exact h
  | cons j rest ih =>
    rw [List.map_cons, List.mem_cons, not_or] at hkey
    exact ih (h.sown_of_ne hkey.1) hkey.2

theorem sowAll_of_rests {is : List Input} (h : ∀ i ∈ is, s.Rests i) :
    s.sowAll is = s ∧ s.replacedAll is = [] := by
  induction is with
  | nil => exact ⟨rfl, rfl⟩
  | cons i rest ih =>
    have hi := h i List.mem_cons_self
    have hrest := ih fun j hj => h j (List.mem_cons_of_mem i hj)
    rw [Store.sowAll, replacedAll, hi.sown_eq, hi.replaced_eq]
    exact hrest

end Rests

section Distinct

variable {is : List Input}

theorem get?_sowAll (s : Store) {k : String} (hkey : k ∉ is.map Input.key) :
    (s.sowAll is).get? k = s.get? k := by
  induction is generalizing s with
  | nil => rfl
  | cons i rest ih =>
    rw [List.map_cons, List.mem_cons, not_or] at hkey
    exact (ih (s.sown i.key i.seed) hkey.2).trans (get?_sown_of_ne hkey.1)

theorem held_sowAll (s : Store) {k : String} (hkey : k ∉ is.map Input.key) :
    (s.sowAll is).held k = s.held k := by
  funext seed
  rw [held, held, s.get?_sowAll hkey]

theorem rests_sowAll (s : Store) (hdistinct : (is.map Input.key).Nodup) :
    ∀ i ∈ is, (s.sowAll is).Rests i := by
  induction is generalizing s with
  | nil => exact fun i hi => absurd hi List.not_mem_nil
  | cons j rest ih =>
    obtain ⟨hj, hrest⟩ := List.nodup_cons.mp hdistinct
    intro i hi
    rcases List.mem_cons.mp hi with rfl | hi
    · exact (rests_sown s i).sowAll hj
    · exact ih (s.sown j.key j.seed) hrest i hi

/-- What has been sown once is left alone the second time, and nothing is reported. -/
theorem sowAll_twice (s : Store) (hdistinct : (is.map Input.key).Nodup) :
    (s.sowAll is).sowAll is = s.sowAll is ∧ (s.sowAll is).replacedAll is = [] :=
  sowAll_of_rests (rests_sowAll s hdistinct)

/-- A node shows after the sowing what it would have shown before. -/
theorem held_sowAll_self (s : Store) (hdistinct : (is.map Input.key).Nodup) :
    ∀ i ∈ is, (s.sowAll is).held i.key i.seed = s.held i.key i.seed := by
  induction is generalizing s with
  | nil => exact fun i hi => absurd hi List.not_mem_nil
  | cons j rest ih =>
    obtain ⟨hj, hrest⟩ := List.nodup_cons.mp hdistinct
    intro i hi
    rcases List.mem_cons.mp hi with rfl | hi
    · have hlater := congrFun ((s.sown i.key i.seed).held_sowAll hj) i.seed
      exact hlater.trans held_sown_self
    · have hne : i.key ≠ j.key := fun h => hj (h ▸ List.mem_map_of_mem hi)
      have hsame : (s.sown j.key j.seed).held i.key i.seed = s.held i.key i.seed := by
        rw [held, held, get?_sown_of_ne hne]
      exact (ih (s.sown j.key j.seed) hrest i hi).trans hsame

end Distinct

end Store

end ServerUi
