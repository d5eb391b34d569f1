import ServerUi.Proofs.State.Seed

/-! A map from identities to values that is kept beside a memory store: what the interactive nodes
of a document do to it as they are built, in order, and that the store holds the same. -/

namespace ServerUi

def Ledger := String → Option Json

/-- An interactive node that is built: its identity and the leaf that it asks for. -/
structure Input where
  key : String
  seed : Seed

namespace Ledger

def empty : Ledger := fun _ => none

def set (m : Ledger) (key : String) (v : Json) : Ledger := fun k => if k = key then some v else m k

/-- A checkbox enters its value if there is none; a dropdown enters its first option if there is no
value or one that is not among its options. -/
def enter (m : Ledger) (i : Input) : Ledger :=
  match i.seed, m i.key with
  | .checkbox _ checked, none => m.set i.key (.bool checked)
  | .checkbox _ _, some _ => m
  | .dropdown first _ _, none => m.set i.key (.str first)
  | .dropdown first others _, some v =>
    if Builder.isOption (first :: others) v then m else m.set i.key (.str first)

def shows (m : Ledger) (i : Input) : Json :=
  match i.seed with
  | .checkbox .. => .bool ((m i.key).elim false Json.truth)
  | .dropdown .. => (m i.key).getD .null

/-- The ledger behind nodes that are built one after another, and what each of them shows. -/
def play (m : Ledger) : List Input → Ledger × List (String × Json)
  | [] => (m, [])
  | i :: rest =>
    let next := m.enter i
    ((next.play rest).1, (i.key, next.shows i) :: (next.play rest).2)

theorem play_append (m : Ledger) (xs ys : List Input) :
    m.play (xs ++ ys) =
      (((m.play xs).1.play ys).1, (m.play xs).2 ++ ((m.play xs).1.play ys).2) := by
  induction xs generalizing m with
  | nil => rfl
  | cons i rest ih => simp only [List.cons_append, play, ih]

/-- A leaf that is there in the ledger with a value that it can show is left alone. -/
theorem enter_eq (m : Ledger) (key : String) (seed : Seed) :
    m.enter ⟨key, seed⟩ = if (m key).any seed.admits then m else m.set key seed.initial := by
  cases seed with
  | checkbox label checked => cases h : m key <;> simp [enter, h, Seed.admits, Seed.initial]
  | dropdown first others label =>
    cases h : m key with
    | none => simp [enter, h, Seed.initial]
    | some v =>
      simp only [enter, h]
      rfl

end Ledger

/-- A memory store with one value for each identity of the ledger, and no others. -/
def Store.Holds (s : Store) (m : Ledger) : Prop :=
  ∃ values, s = .memory values ∧ (values.map Prod.fst).Nodup ∧ ∀ key, values.lookup key = m key

theorem Config.put_keys (config : Config) (key : String) (v : Json) :
    (config.put key v).map Prod.fst =
      if key ∈ config.map Prod.fst then config.map Prod.fst else config.map Prod.fst ++ [key] := by
  induction config with
  | nil => rfl
  | cons m rest ih =>
    obtain ⟨name, u⟩ := m
    by_cases hname : name = key
    · simp [put, hname]
    · have hne : key ≠ name := Ne.symm hname
      by_cases hmem : key ∈ rest.map Prod.fst
      · simp only [put, if_neg hname, List.map_cons, ih, if_pos hmem, List.mem_cons, hne, false_or]
      · simp only [put, if_neg hname, List.map_cons, ih, if_neg hmem, List.mem_cons, hne, false_or,
          List.cons_append]

theorem Config.put_nodup {config : Config} (h : (config.map Prod.fst).Nodup) (key : String)
    (v : Json) : ((config.put key v).map Prod.fst).Nodup := by
  rw [put_keys]
  split
  · exact h
  · next hkey =>
    refine List.nodup_append.mpr ⟨h, by simp, ?_⟩
    rintro k hk _ hm rfl
    rw [List.mem_singleton] at hm
    exact hkey (hm ▸ hk)

namespace Store.Holds

variable {s : Store} {m : Ledger}

theorem put {values : Config} (h : (memory values).Holds m) (key : String) (v : Json) :
    (memory (values.put key v)).Holds (m.set key v) := by
  obtain ⟨_, ⟨⟩, hnodup, hlookup⟩ := h
  refine ⟨_, rfl, Config.put_nodup hnodup key v, fun k => ?_⟩
  rw [Config.lookup_put, Ledger.set, hlookup]

theorem sown (h : s.Holds m) (key : String) (seed : Seed) :
    (s.sown key seed).Holds (m.enter ⟨key, seed⟩) := by
  obtain ⟨values, rfl, hnodup, hlookup⟩ := h
  rw [Ledger.enter_eq, Store.sown, hlookup]
  split
  · exact ⟨values, rfl, hnodup, hlookup⟩
  · exact put ⟨values, rfl, hnodup, hlookup⟩ key seed.initial

theorem held_eq (h : s.Holds m) (key : String) (seed : Seed) :
    (m.enter ⟨key, seed⟩) key = some (s.held key seed) := by
  obtain ⟨values, rfl, hnodup, hlookup⟩ := h
  rw [Ledger.enter_eq, Store.held, Store.get?, Store.snapshot, hlookup]
  cases hv : m key with
  | none => simp [Ledger.set]
  | some v => by_cases ha : seed.admits v = true <;> simp [ha, hv, Ledger.set, Option.filter]

theorem input?_leaf (h : s.Holds m) (key : String) (seed : Seed) :
    (Widget.leaf (seed.leaf ⟨key, s.held key seed⟩)).input? =
      some (key, (m.enter ⟨key, seed⟩).shows ⟨key, seed⟩) := by
  have hheld := h.held_eq key seed
  cases seed with
  | checkbox label checked =>
    simp only [Seed.leaf, Widget.input?, checkedValue, Ledger.shows, hheld]
    rfl
  | dropdown first others label =>
    simp only [Seed.leaf, Widget.input?, selectedValue, Ledger.shows, hheld]
    rfl

end Store.Holds

end ServerUi
