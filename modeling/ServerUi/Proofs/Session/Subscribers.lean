import Mathlib.Data.List.Nodup
import ServerUi.Proofs.Session.History

/-! Who hears of a change. All cells of a memory share one list of listeners, the memory itself the
first of them, so it does not matter whether a cell was bound before or after a subscription. Each
subscription hears of every value that is set from then on, once and in order. -/

namespace ServerUi

/-- A call to a memory store, or to a cell that it has handed out under a name. -/
inductive StoreCall where
  | bind (name key : String) (initial : Json)
  | set (name : String) (v : Json)
  | get (key : String)
  | subscribe
  | clear

namespace StoreCall

/-- The names that cells have been handed out under, each with the key of its cell. -/
def known (keys : List (String × String)) : StoreCall → List (String × String)
  | bind name key _ => (name, key) :: keys
  | _ => keys

def subscriptions : StoreCall → Nat
  | subscribe => 1
  | _ => 0

/-- The key and the value of a call that sets a cell. -/
def set? (keys : List (String × String)) : StoreCall → Option (String × Json)
  | set name v => (keys.lookup name).map (·, v)
  | _ => none

def knownAll (keys : List (String × String)) (calls : List StoreCall) : List (String × String) :=
  calls.foldl known keys

def subscriptionsIn : List StoreCall → Nat
  | [] => 0
  | c :: rest => c.subscriptions + subscriptionsIn rest

def setsIn (keys : List (String × String)) : List StoreCall → List (String × Json)
  | [] => []
  | c :: rest => (c.set? keys).toList ++ setsIn (c.known keys) rest

end StoreCall

namespace Session

def storeCall (x : Session) : StoreCall → Session
  | .bind name key initial => (x.bind name key initial).2
  | .set name v =>
    match x.set name v with
    | .ok (_, y) => y
    | .error _ => x
  | .get _ => x
  | .subscribe => x.subscribe.toOption.getD x
  | .clear => x.clear.toOption.getD x

def storeCalls (x : Session) (calls : List StoreCall) : Session := calls.foldl storeCall x

/-- The session has a memory store and the cells with these keys, and that many subscribers. -/
structure Listening (x : Session) (keys : List (String × String)) (n : Nat) : Prop where
  memory : ∃ values, x.store = .memory values
  keys : ∀ name, (x.cells.lookup name).map Cell.key = keys.lookup name
  subscribers : x.subscribers = n
  heard : ∀ h ∈ x.heard, h.subscriber < n

theorem set_memory {x : Session} {values : Config} {name : String} {cell : Cell}
    (hstore : x.store = .memory values) (hcell : x.cells.lookup name = some cell) (v : Json) :
    x.storeCall (.set name v) =
      { x with
        store := .memory (values.put cell.key v)
        cells := keep x.cells name { cell with value := v }
        heard := x.heard ++ told x.subscribers cell.key v } := by
  have hset : x.cell name = .ok cell := by rw [Session.cell, hcell]
  have hheard : x.heard ++
      [(cell.key, v)].flatMap (fun change => told x.subscribers change.1 change.2) =
      x.heard ++ told x.subscribers cell.key v := by simp
  simp only [storeCall, Session.set, hset, Cell.write, hstore, Store.write]
  exact congrArg (fun heard => { x with
    store := .memory (values.put cell.key v), cells := keep x.cells name { cell with value := v },
    heard }) hheard

theorem set_unknown {x : Session} {name : String} (hcell : x.cells.lookup name = none) (v : Json) :
    x.storeCall (.set name v) = x := by
  have hset : x.cell name = .error (.noCell name) := by rw [Session.cell, hcell]
  simp only [storeCall, Session.set, hset]
  rfl

theorem subscribe_memory {x : Session} {values : Config} (hstore : x.store = .memory values) :
    x.storeCall .subscribe = { x with subscribers := x.subscribers + 1 } := by
  simp only [storeCall, Session.subscribe, hstore]
  rfl

theorem clear_memory {x : Session} {values : Config} (hstore : x.store = .memory values) :
    x.storeCall .clear = { x with store := .memory [] } := by
  simp only [storeCall, Session.clear, hstore]
  rfl

namespace Listening

variable {x : Session} {keys : List (String × String)} {n : Nat}

theorem start (host : Host) (hook : Option (Custom String)) :
    (Session.start host (.memory []) hook).Listening [] 0 :=
  ⟨⟨[], rfl⟩, fun _ => rfl, rfl, fun _ h => absurd h List.not_mem_nil⟩

theorem bind (h : x.Listening keys n) (name key : String) (initial : Json) :
    (x.bind name key initial).2.Listening ((name, key) :: keys) n := by
  obtain ⟨values, hstore⟩ := h.memory
  have hbound : (x.store.bind key initial).1.key = key ∧
      ∃ after, (x.store.bind key initial).2 = .memory after := by
    rw [hstore, Store.bind]
    split <;> exact ⟨rfl, _, rfl⟩
  obtain ⟨hkey, hafter⟩ := hbound
  refine ⟨hafter, fun other => ?_, h.subscribers, h.heard⟩
  change ((keep x.cells name (x.store.bind key initial).1).lookup other).map Cell.key = _
  rw [lookup_keep, lookup_cons_ite]
  by_cases hother : other = name
  · simp only [hother, if_true, Option.map_some, hkey]
  · simp only [hother, if_false, h.keys]

theorem set (h : x.Listening keys n) (name : String) (v : Json) :
    (x.storeCall (.set name v)).Listening keys n ∧
    (x.storeCall (.set name v)).heard =
      x.heard ++ ((StoreCall.set name v).set? keys).toList.flatMap
        fun change => told n change.1 change.2 := by
  obtain ⟨values, hstore⟩ := h.memory
  have hkeys := h.keys name
  cases hcell : x.cells.lookup name with
  | none =>
    rw [hcell, Option.map_none] at hkeys
    rw [set_unknown hcell, StoreCall.set?, ← hkeys]
    exact ⟨h, (List.append_nil _).symm⟩
  | some cell =>
    rw [hcell, Option.map_some] at hkeys
    rw [set_memory hstore hcell, StoreCall.set?, ← hkeys]
    have htold : x.heard ++ told x.subscribers cell.key v =
        x.heard ++ [(cell.key, v)].flatMap fun change => told n change.1 change.2 := by
      simp [h.subscribers]
    refine ⟨⟨⟨_, rfl⟩, fun other => ?_, h.subscribers, fun heard hheard => ?_⟩, htold⟩
    · change ((keep x.cells name _).lookup other).map Cell.key = keys.lookup other
      rw [lookup_keep]
      by_cases hother : other = name
      · simp only [hother, if_true, Option.map_some, hkeys]
      · simp only [hother, if_false, h.keys]
    · rcases List.mem_append.mp hheard with hold | hnew
      · exact h.heard heard hold
      · obtain ⟨i, hi, rfl⟩ := List.mem_map.mp hnew
        have hlt := List.mem_range.mp hi
        rw [h.subscribers] at hlt
        exact hlt

/-- Only a call that sets a cell is heard of, by every subscriber in turn. -/
theorem step (h : x.Listening keys n) (c : StoreCall) :
    (x.storeCall c).Listening (c.known keys) (n + c.subscriptions) ∧
    (x.storeCall c).heard =
      x.heard ++ (c.set? keys).toList.flatMap fun change => told n change.1 change.2 := by
  obtain ⟨values, hstore⟩ := h.memory
  cases c with
  | bind name key initial => exact ⟨h.bind name key initial, (List.append_nil _).symm⟩
  | set name v => exact h.set name v
  | get key => exact ⟨h, (List.append_nil _).symm⟩
  | subscribe =>
    rw [subscribe_memory hstore]
    refine ⟨⟨⟨values, hstore⟩, h.keys, congrArg (· + 1) h.subscribers, fun heard hheard => ?_⟩,
      (List.append_nil _).symm⟩
    exact Nat.lt_succ_of_lt (h.heard heard hheard)
  | clear =>
    rw [clear_memory hstore]
    exact ⟨⟨⟨[], rfl⟩, h.keys, h.subscribers, h.heard⟩, (List.append_nil _).symm⟩

theorem run (h : x.Listening keys n) (calls : List StoreCall) :
    (x.storeCalls calls).Listening (StoreCall.knownAll keys calls)
      (n + StoreCall.subscriptionsIn calls) := by
  induction calls generalizing x keys n with
  | nil => exact h
  | cons c rest ih =>
    have hrest := ih (h.step c).1
    rw [StoreCall.subscriptionsIn, ← Nat.add_assoc]
    exact hrest

end Listening

/-- What one subscriber has heard, in order. -/
def heardBy (x : Session) (i : Nat) : List (String × Json) :=
  (x.heard.filter (·.subscriber == i)).map fun h => (h.key, h.value)

theorem filter_told {i n : Nat} (hi : i < n) (key : String) (v : Json) :
    ((told n key v).filter (·.subscriber == i)).map (fun h => (h.key, h.value)) = [(key, v)] := by
  have hone : (List.range n).filter (· == i) = [i] := by
    have hcount : (List.range n).count i = 1 :=
      List.count_eq_one_of_mem List.nodup_range (List.mem_range.mpr hi)
    rw [List.filter_beq, hcount]
    rfl
  rw [told, List.filter_map, List.map_map]
  change ((List.range n).filter (· == i)).map _ = _
  rw [hone]
  rfl

namespace Listening

variable {x : Session} {keys : List (String × String)} {n : Nat}

theorem heardBy_step (h : x.Listening keys n) (c : StoreCall) {i : Nat} (hi : i < n) :
    (x.storeCall c).heardBy i = x.heardBy i ++ (c.set? keys).toList := by
  rw [heardBy, (h.step c).2, List.filter_append, List.map_append]
  cases c.set? keys with
  | none => rfl
  | some change =>
    obtain ⟨key, v⟩ := change
    have htold := filter_told hi key v
    simp only [Option.toList_some, List.flatMap_singleton, htold]
    rfl

/-- A subscriber hears of each later change. -/
theorem heardBy_run (h : x.Listening keys n) {i : Nat} (hi : i < n) (calls : List StoreCall) :
    (x.storeCalls calls).heardBy i = x.heardBy i ++ StoreCall.setsIn keys calls := by
  induction calls generalizing x keys n with
  | nil => exact (List.append_nil _).symm
  | cons c rest ih =>
    have hrest := ih (h.step c).1 (Nat.lt_add_right c.subscriptions hi)
    rw [h.heardBy_step c hi, List.append_assoc] at hrest
    exact hrest

theorem heardBy_new (h : x.Listening keys n) : x.heardBy n = [] := by
  have hnone : x.heard.filter (·.subscriber == n) = [] := by
    refine List.filter_eq_nil_iff.mpr fun heard hheard => ?_
    have hlt := h.heard heard hheard
    have hne : heard.subscriber ≠ n := Nat.ne_of_lt hlt
    simpa using hne
  rw [heardBy, hnone, List.map_nil]

end Listening

end Session

/-- Whom a cell tells of a new value. -/
inductive Listener where
  | memory
  | subscriber (i : Nat)

/-- What a subscriber is told, and what the memory has under the key when it is told. -/
structure Hearing where
  heard : Heard
  remembered : Option Json

/-- A memory and its cells, which tell the same listeners, one after the other. -/
structure Listened where
  values : Config
  listeners : List Listener
  cells : List (String × Cell)
  told : List Hearing

namespace Listened

def tell (key : String) (v : Json) (m : Listened) : Listener → Listened
  | .memory => { m with values := m.values.put key v }
  | .subscriber i => { m with told := m.told ++ [⟨⟨i, key, v⟩, m.values.lookup key⟩] }

def setCell (m : Listened) (name : String) (cell : Cell) (v : Json) : Listened :=
  m.listeners.foldl (tell cell.key v)
    { m with cells := Session.keep m.cells name { cell with value := v } }

def call (m : Listened) : StoreCall → Listened
  | .bind name key initial =>
    let (cell, s) := (Store.memory m.values).bind key initial
    { m with values := s.snapshot, cells := Session.keep m.cells name cell }
  | .set name v => (m.cells.lookup name).elim m (m.setCell name · v)
  | .get _ => m
  | .subscribe => { m with listeners := m.listeners ++ [.subscriber (m.listeners.length - 1)] }
  | .clear => { m with values := [] }

def start : Listened := ⟨[], [.memory], [], []⟩

def calls (m : Listened) (cs : List StoreCall) : Listened := cs.foldl call m

theorem tell_subscribers (m : Listened) (key : String) (v : Json) (is : List Nat) :
    (is.map Listener.subscriber).foldl (tell key v) m =
      { m with told := m.told ++ is.map fun i => ⟨⟨i, key, v⟩, m.values.lookup key⟩ } := by
  induction is generalizing m with
  | nil => simp
  | cons i rest ih =>
    rw [List.map_cons, List.foldl_cons, ih]
    simp [tell, List.append_assoc]

/-- A session is a memory that is listened to, but for what there was when a subscriber was told. By
then the new value was there each time. -/
structure Shows (m : Listened) (x : Session) : Prop where
  store : x.store = .memory m.values
  listeners : m.listeners = .memory :: (List.range x.subscribers).map .subscriber
  cells : x.cells = m.cells
  heard : x.heard = m.told.map Hearing.heard
  remembered : ∀ t ∈ m.told, t.remembered = some t.heard.value

namespace Shows

variable {m : Listened} {x : Session}

theorem setCell_eq (h : m.Shows x) (name : String) (cell : Cell) (v : Json) :
    m.setCell name cell v =
      { m with
        values := m.values.put cell.key v
        cells := Session.keep m.cells name { cell with value := v }
        told := m.told ++ (Session.told x.subscribers cell.key v).map (⟨·, some v⟩) } := by
  have hput : (m.values.put cell.key v).lookup cell.key = some v := by
    rw [Config.lookup_put, if_pos rfl]
  rw [setCell, h.listeners, List.foldl_cons, tell_subscribers, Session.told, List.map_map]
  simp only [tell, hput]
  rfl

theorem set (h : m.Shows x) (name : String) (v : Json) :
    (m.call (.set name v)).Shows (x.storeCall (.set name v)) := by
  rw [call, ← h.cells]
  cases hcell : x.cells.lookup name with
  | none =>
    rw [Session.set_unknown hcell]
    exact h
  | some cell =>
    rw [Session.set_memory h.store hcell, Option.elim_some, h.setCell_eq name cell v]
    refine ⟨rfl, h.listeners, by rw [h.cells], ?_, fun t ht => ?_⟩
    · rw [List.map_append, List.map_map, ← h.heard]
      exact congrArg (x.heard ++ ·) (List.map_id _).symm
    · rcases List.mem_append.mp ht with hold | hnew
      · exact h.remembered t hold
      · obtain ⟨heard, hheard, rfl⟩ := List.mem_map.mp hnew
        obtain ⟨i, -, rfl⟩ := List.mem_map.mp hheard
        rfl

theorem call (h : m.Shows x) (c : StoreCall) : (m.call c).Shows (x.storeCall c) := by
  cases c with
  | bind name key initial =>
    have hbound : ∃ after, ((Store.memory m.values).bind key initial).2 = .memory after := by
      rw [Store.bind]
      split <;> exact ⟨_, rfl⟩
    obtain ⟨after, hafter⟩ := hbound
    refine ⟨?_, h.listeners, ?_, h.heard, h.remembered⟩
    · change (x.store.bind key initial).2 =
        .memory ((Store.memory m.values).bind key initial).2.snapshot
      rw [h.store, hafter]
      rfl
    · change Session.keep x.cells name (x.store.bind key initial).1 =
        Session.keep m.cells name ((Store.memory m.values).bind key initial).1
      rw [h.store, h.cells]
  | set name v => exact h.set name v
  | get key => exact h
  | subscribe =>
    have hlength : m.listeners.length - 1 = x.subscribers := by
      rw [h.listeners, List.length_cons, List.length_map, List.length_range, Nat.add_sub_cancel]
    rw [Session.subscribe_memory h.store]
    refine ⟨h.store, ?_, h.cells, h.heard, h.remembered⟩
    change m.listeners ++ [.subscriber (m.listeners.length - 1)] = _
    rw [hlength, h.listeners, List.range_succ, List.map_append]
    rfl
  | clear =>
    rw [Session.clear_memory h.store]
    exact ⟨rfl, h.listeners, h.cells, h.heard, h.remembered⟩

theorem calls (h : m.Shows x) (cs : List StoreCall) : (m.calls cs).Shows (x.storeCalls cs) := by
  induction cs generalizing m x with
  | nil => exact h
  | cons c rest ih => exact ih (h.call c)

end Shows

theorem start_shows (host : Host) (hook : Option (Custom String)) :
    start.Shows (Session.start host (.memory []) hook) :=
  ⟨rfl, rfl, rfl, rfl, fun _ ht => absurd ht List.not_mem_nil⟩

end Listened

/-- What is heard of a memory store through any calls to it and its cells. Each subscription hears
of exactly the values that are set after it, in order. The next call has nobody hear of anything,
unless it sets a cell; then each of the subscribers so far hears of the value, in the order in which
they subscribed. The same is heard when the cells tell their listeners one after the other, and
whoever is told finds the new value in the memory already. -/
theorem Session.changes_heard (host : Host) (hook : Option (Custom String))
    (calls : List StoreCall) :
    let start := Session.start host (.memory []) hook
    let x := start.storeCalls calls
    let listened := Listened.start.calls calls
    (∀ before after, calls = before ++ .subscribe :: after →
      x.heardBy (StoreCall.subscriptionsIn before) =
        StoreCall.setsIn (StoreCall.knownAll [] before) after) ∧
    (∀ c : StoreCall, (x.storeCall c).heard = x.heard ++
      match c.set? (StoreCall.knownAll [] calls) with
      | none => []
      | some (key, v) => (List.range (StoreCall.subscriptionsIn calls)).map (⟨·, key, v⟩)) ∧
    x.store = .memory listened.values ∧ x.heard = listened.told.map Hearing.heard ∧
    ∀ t ∈ listened.told, t.remembered = some t.heard.value := by
  intro start x listened
  have hstart : start.Listening [] 0 := .start host hook
  have hreached (cs : List StoreCall) : (start.storeCalls cs).Listening
      (StoreCall.knownAll [] cs) (StoreCall.subscriptionsIn cs) := by
    have hrun := hstart.run cs
    rwa [Nat.zero_add] at hrun
  have hshows : listened.Shows x := (Listened.start_shows host hook).calls calls
  refine ⟨?_, fun c => ?_, hshows.store, hshows.heard, hshows.remembered⟩
  · rintro before after rfl
    let y := start.storeCalls before
    have hy : y.Listening _ _ := hreached before
    obtain ⟨hsubscribed, hsame⟩ := hy.step .subscribe
    have hnew : (y.storeCall .subscribe).heardBy (StoreCall.subscriptionsIn before) = [] := by
      rw [heardBy, hsame.trans (List.append_nil _)]
      exact hy.heardBy_new
    have hafter := hsubscribed.heardBy_run (Nat.lt_succ_self _) after
    rw [hnew, List.nil_append] at hafter
    have hsplit : x = (y.storeCall .subscribe).storeCalls after := by
      simp only [x, y, storeCalls, List.foldl_append, List.foldl_cons]
    rw [hsplit]
    exact hafter
  · rw [((hreached calls).step c).2]
    cases c.set? (StoreCall.knownAll [] calls) with
    | none => rfl
    | some change => exact congrArg (x.heard ++ ·) (List.append_nil _)

/-- A cell that was bound before both subscriptions and is set again after the memory is cleared. -/
theorem Session.changes_heard_cleared :
    let first := StoreCall.set "cell" (.str "a")
    let before := [StoreCall.bind "cell" "plan" (.str "b"), .subscribe, first, .clear]
    let after := [StoreCall.set "cell" (.str "a")]
    let calls := before ++ .subscribe :: after
    let x := (Session.start (Host.mk .standard none) (.memory []) none).storeCalls calls
    let listened := Listened.start.calls calls
    x.heardBy 0 = [("plan", .str "a"), ("plan", .str "a")] ∧ x.heardBy 1 = [("plan", .str "a")] ∧
    listened.told ≠ [] ∧ ∀ t ∈ listened.told, t.remembered = some t.heard.value := by
  intro first before after calls x listened
  obtain ⟨hheard, -, -, -, htold⟩ := Session.changes_heard (Host.mk .standard none) none calls
  have hearly : x.heardBy 0 = [("plan", .str "a"), ("plan", .str "a")] :=
    hheard [.bind "cell" "plan" (.str "b")] (first :: .clear :: .subscribe :: after) rfl
  have hlate : x.heardBy 1 = [("plan", .str "a")] := hheard before after rfl
  exact ⟨hearly, hlate, List.cons_ne_nil _ _, htold⟩

end ServerUi
