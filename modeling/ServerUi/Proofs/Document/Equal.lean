import Mathlib.Data.List.Forall2
import ServerUi.Proofs.State.Seed

/-! Equality of values of a document: numbers are compared as numbers, and objects as mappings. An
object of optional members under names of their own is compared member by member. -/

namespace ServerUi

namespace Json

/-- The order of members does not count, and a whole number may be equal to a double. -/
inductive Equal : Json → Json → Prop where
  | null : Equal .null .null
  | bool (b : Bool) : Equal (.bool b) (.bool b)
  | int (n : Int) : Equal (.int n) (.int n)
  | float {x y : Double} (h : x.sameNumber y = true) : Equal (.float x) (.float y)
  | intFloat {n : Int} {x : Double} (h : x.toInt? = some n) : Equal (.int n) (.float x)
  | floatInt {n : Int} {x : Double} (h : x.toInt? = some n) : Equal (.float x) (.int n)
  | str (s : String) : Equal (.str s) (.str s)
  | array {items others : List Json} (h : List.Forall₂ Equal items others) :
      Equal (.arr items) (.arr others)
  | object {members others : Config}
      (h : ∀ key, Option.Rel Equal (members.lookup key) (others.lookup key)) :
      Equal (.obj members) (.obj others)

theorem equal_str {s t : String} : Equal (.str s) (.str t) ↔ s = t := by
  constructor
  · rintro ⟨⟩
    rfl
  · rintro rfl
    exact .str s

theorem equal_bool {b c : Bool} : Equal (.bool b) (.bool c) ↔ b = c := by
  constructor
  · rintro ⟨⟩
    rfl
  · rintro rfl
    exact .bool b

theorem equal_int {n m : Int} : Equal (.int n) (.int m) ↔ n = m := by
  constructor
  · rintro ⟨⟩
    rfl
  · rintro rfl
    exact .int n

theorem equal_float {x y : Double} : Equal (.float x) (.float y) ↔ x.sameNumber y = true := by
  constructor
  · rintro ⟨⟩
    assumption
  · exact .float

theorem equal_arr {items others : List Json} :
    Equal (.arr items) (.arr others) ↔ List.Forall₂ Equal items others := by
  constructor
  · rintro ⟨⟩
    assumption
  · exact .array

theorem equal_obj {members others : Config} :
    Equal (.obj members) (.obj others) ↔
      ∀ key, Option.Rel Equal (members.lookup key) (others.lookup key) := by
  constructor
  · rintro ⟨⟩
    assumption
  · exact .object

section Written

variable {α β : Type} {enc : α → Json} {f : α → β}

/-- Values that are compared through what they are written as. -/
theorem rel_map {o o' : Option α} (h : ∀ a ∈ o, ∀ b ∈ o', Equal (enc a) (enc b) ↔ f a = f b) :
    Option.Rel Equal (o.map enc) (o'.map enc) ↔ o.map f = o'.map f := by
  cases o with
  | none =>
    cases o' with
    | none => exact ⟨fun _ => rfl, fun _ => .none⟩
    | some b => constructor <;> rintro ⟨⟩
  | some a =>
    cases o' with
    | none => constructor <;> rintro ⟨⟩
    | some b =>
      have hab := h a rfl b rfl
      simp only [Option.map_some, Option.some.injEq, ← hab]
      constructor
      · rintro ⟨⟩
        assumption
      · exact .some

theorem forall₂_map {as bs : List α} (h : ∀ a ∈ as, ∀ b ∈ bs, Equal (enc a) (enc b) ↔ f a = f b) :
    List.Forall₂ Equal (as.map enc) (bs.map enc) ↔ as.map f = bs.map f := by
  induction as generalizing bs with
  | nil => cases bs <;> simp
  | cons a rest ih =>
    cases bs with
    | nil => simp
    | cons b more =>
      have hab := h a List.mem_cons_self b List.mem_cons_self
      have hrest := @ih more fun a ha b hb =>
        h a (List.mem_cons_of_mem _ ha) b (List.mem_cons_of_mem _ hb)
      simp only [List.map_cons, List.forall₂_cons, List.cons.injEq, hab, hrest]

end Written

end Json

theorem lookup_member?_append (name : String) (v : Option Json) (rest : Config) (key : String) :
    (member? name v ++ rest).lookup key =
      if key = name then v.or (rest.lookup key) else rest.lookup key := by
  cases v with
  | none => simp [member?]
  | some v => simp [member?, lookup_cons_ite]

/-- The members that have a value, of some under their names. -/
def present : List (String × Option Json) → Config
  | [] => []
  | (name, v) :: rest => member? name v ++ present rest

theorem lookup_present_of_notMem {fields : List (String × Option Json)} {key : String}
    (h : key ∉ fields.map Prod.fst) : (present fields).lookup key = none := by
  induction fields with
  | nil => rfl
  | cons field rest ih =>
    obtain ⟨name, v⟩ := field
    simp only [List.map_cons, List.mem_cons, not_or] at h
    rw [present, lookup_member?_append, if_neg h.1]
    exact ih h.2

/-- The values are equal one by one, or missing. -/
def FieldsEqual (fields others : List (String × Option Json)) : Prop :=
  List.Forall₂ (fun field other => Option.Rel Json.Equal field.2 other.2) fields others

@[simp] theorem fieldsEqual_nil : FieldsEqual [] [] := .nil

@[simp] theorem fieldsEqual_cons (field other : String × Option Json)
    (rest more : List (String × Option Json)) :
    FieldsEqual (field :: rest) (other :: more) ↔
      Option.Rel Json.Equal field.2 other.2 ∧ FieldsEqual rest more :=
  List.forall₂_cons

/-- Objects with the same names are compared name by name. -/
theorem equal_present (fields others : List (String × Option Json))
    (hnames : fields.map Prod.fst = others.map Prod.fst) (hnodup : (fields.map Prod.fst).Nodup) :
    Json.Equal (.obj (present fields)) (.obj (present others)) ↔
      FieldsEqual fields others := by
  induction fields generalizing others with
  | nil =>
    obtain rfl := List.map_eq_nil_iff.mp hnames.symm
    exact ⟨fun _ => .nil, fun _ => .object fun _ => .none⟩
  | cons field rest ih =>
    obtain ⟨name, v⟩ := field
    cases others with
    | nil => cases hnames
    | cons other more =>
      obtain ⟨name', v'⟩ := other
      obtain ⟨rfl, hmore⟩ := List.cons.inj hnames
      obtain ⟨hname, hrest⟩ := List.nodup_cons.mp hnodup
      have hname' : name ∉ more.map Prod.fst := hmore ▸ hname
      have hbelow := ih more hmore hrest
      simp only [fieldsEqual_cons, ← hbelow, Json.equal_obj]
      have hself : ∀ key, Option.Rel Json.Equal ((present ((name, v) :: rest)).lookup key)
          ((present ((name, v') :: more)).lookup key) ↔
          if key = name then Option.Rel Json.Equal v v'
          else Option.Rel Json.Equal ((present rest).lookup key) ((present more).lookup key) := by
        intro key
        rw [present, present, lookup_member?_append, lookup_member?_append]
        by_cases hkey : key = name
        · subst hkey
          simp only [if_true, lookup_present_of_notMem hname, lookup_present_of_notMem hname',
            Option.or_none]
        · simp only [if_neg hkey]
      simp only [hself]
      constructor
      · intro hall
        refine ⟨by simpa only [if_true] using hall name, fun key => ?_⟩
        by_cases hkey : key = name
        · subst hkey
          rw [lookup_present_of_notMem hname, lookup_present_of_notMem hname']
          exact .none
        · simpa only [if_neg hkey] using hall key
      · rintro ⟨hvalue, hall⟩ key
        split
        · exact hvalue
        · exact hall key

end ServerUi
