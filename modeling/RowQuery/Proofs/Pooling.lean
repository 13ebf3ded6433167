import RowQuery.Database.Pool
import RowQuery.Proofs.Exchange

/-! The pool along runs of connects, closes and disconnects. A connect answers with the database kept
for the identity of its server and opens one only when there is none; what it opens is kept until the
pool is emptied. So nothing is open that is not kept, and what is kept is open as long as nobody
closes a database himself. -/

namespace RowQuery

open Running

/-! ### Connections of a world -/

/-- What is known of the connection of a database. -/
structure Handle where
  server : Option Server
  isOpen : Bool
  deriving DecidableEq, Repr

def Handle.shut (h : Handle) : Handle := { h with isOpen := false }

def Database.handle (d : Database) : Handle := ⟨d.server, d.isOpen⟩

namespace World

def handles (w : World) : List Handle := w.databases.map Database.handle

/-- The numbers of the databases in the pool. -/
def kept (w : World) : List Nat := w.pool.cached.map (·.2)

/-- The database with this number has an open connection. -/
def IsOpen (w : World) (id : Nat) : Prop := ∃ h, w.handles[id]? = some h ∧ h.isOpen = true

/-- The database with this number was opened at a server of this identity. -/
def OpenedAt (w : World) (id : Nat) (k : Server.Identity) : Prop :=
  ∃ h s, w.handles[id]? = some h ∧ h.server = some s ∧ s.identity = k

/-- The connections with these numbers are closed, and the others are what they were. -/
def Shuts (ids : List Nat) (w u : World) : Prop :=
  ∀ id, u.handles[id]? = (w.handles[id]?).map fun h => if id ∈ ids then h.shut else h

variable {w u v : World} {id : Nat} {k l : Server.Identity}

theorem getElem?_handles (w : World) (id : Nat) :
    w.handles[id]? = (w.databases[id]?).map Database.handle := List.getElem?_map

theorem isOpen_congr (h : u.handles[id]? = w.handles[id]?) : u.IsOpen id ↔ w.IsOpen id := by
  rw [IsOpen, IsOpen, h]

theorem openedAt_congr (h : u.handles[id]? = w.handles[id]?) :
    u.OpenedAt id k ↔ w.OpenedAt id k := by
  rw [OpenedAt, OpenedAt, h]

theorem OpenedAt.unique (h : w.OpenedAt id k) (h' : w.OpenedAt id l) : k = l := by
  obtain ⟨d, s, hd, hs, rfl⟩ := h
  obtain ⟨d', s', hd', hs', rfl⟩ := h'
  obtain rfl := Option.some.inj (hd.symm.trans hd')
  obtain rfl := Option.some.inj (hs.symm.trans hs')
  rfl

theorem OpenedAt.lt (h : w.OpenedAt id k) : id < w.handles.length := by
  obtain ⟨d, s, hd, -, -⟩ := h
  exact (List.getElem?_eq_some_iff.mp hd).1

theorem IsOpen.lt (h : w.IsOpen id) : id < w.handles.length := by
  obtain ⟨d, hd, -⟩ := h
  exact (List.getElem?_eq_some_iff.mp hd).1

theorem Shuts.nil (h : u.handles = w.handles) : Shuts [] w u := by
  intro id
  simp [h]

theorem Shuts.append {xs ys : List Nat} (h : Shuts xs w v) (h' : Shuts ys v u) :
    Shuts (xs ++ ys) w u := by
  intro id
  rw [h' id, h id, Option.map_map]
  congr 1
  funext d
  by_cases hx : id ∈ xs <;> by_cases hy : id ∈ ys <;> simp [hx, hy, Handle.shut]

theorem Shuts.openedAt_iff {ids : List Nat} (h : Shuts ids w u) :
    u.OpenedAt id k ↔ w.OpenedAt id k := by
  unfold OpenedAt
  rw [h id]
  cases w.handles[id]? with
  | none => simp
  | some d => by_cases hid : id ∈ ids <;> simp [hid, Handle.shut]

theorem Shuts.isOpen_iff {ids : List Nat} (h : Shuts ids w u) :
    u.IsOpen id ↔ w.IsOpen id ∧ id ∉ ids := by
  unfold IsOpen
  rw [h id]
  cases w.handles[id]? with
  | none => simp
  | some d => by_cases hid : id ∈ ids <;> simp [hid, Handle.shut]

theorem Shuts.congr {xs ys : List Nat} (h : Shuts xs w u) (hxy : ∀ id, id ∈ xs ↔ id ∈ ys) :
    Shuts ys w u := by
  intro id
  simp only [h id, hxy id]

/-- Nothing is closed by a number that is not known. -/
theorem shuts_unknown (hid : w.handles.length ≤ id) : Shuts [id] w w := by
  intro j
  by_cases hj : j = id
  · rw [hj, List.getElem?_eq_none hid, Option.map_none]
  · simp [hj]

theorem Shuts.length_eq {ids : List Nat} (h : Shuts ids w u) :
    u.handles.length = w.handles.length := by
  refine Nat.le_antisymm ?_ ?_
  · rw [← List.getElem?_eq_none_iff, h, List.getElem?_eq_none (Nat.le_refl _), Option.map_none]
  · have hn : u.handles[u.handles.length]? = none := List.getElem?_eq_none (Nat.le_refl _)
    rw [h, Option.map_eq_none_iff] at hn
    exact List.getElem?_eq_none_iff.mp hn

end World

/-! ### What connecting does -/

namespace Database

variable {w : World} {id : Nat} {d e : Database}

/-- The models given with a connect, none when they count as missing, or what is wrong with them. -/
def givenModels (models : Value) : Except Error (List (String × Model)) :=
  if models.isTruthy then
    match models with
    | .map entries => (readModels entries).mapError ArgumentError.toError
    | _ => .error (.argument .modelsType)
  else .ok []

theorem withModels_eq (d : Database) {models : Value} (h : models.isTruthy = true) :
    d.withModels models =
      (givenModels models).map fun ms => { d with models := Keyed.putAll d.models ms } := by
  unfold withModels givenModels
  rw [if_pos h]
  cases models with
  | map entries => cases hm : readModels entries <;> simp only [hm] <;> rfl
  | _ => rfl

theorem map_handle_set (hd : w.databases[id]? = some d) (he : e.handle = d.handle) :
    (w.databases.set id e).map Database.handle = w.handles := by
  obtain ⟨hid, rfl⟩ := List.getElem?_eq_some_iff.mp hd
  rw [List.map_set, he, ← List.getElem_map Database.handle (h := by simpa using hid)]
  exact List.set_getElem_self _

theorem run_close (hid : id < w.handles.length) : ∃ u, (close id).run.run w = (.ok (), u) ∧
    u.pool = w.pool ∧ World.Shuts [id] w u := by
  have hlt : id < w.databases.length := by simpa [World.handles] using hid
  have hread : (World.database id).run.run w = (.ok w.databases[id], w) := by
    rw [run_database, List.getElem?_eq_getElem hlt]
  refine ⟨_, run_bind_of_ok hread _, rfl, fun j => ?_⟩
  change ((w.databases.set id { w.databases[id] with isOpen := false }).map Database.handle)[j]? = _
  rw [List.getElem?_map, List.getElem?_set, World.getElem?_handles]
  by_cases hj : id = j
  · subst hj
    rw [if_pos rfl, if_pos hlt, List.getElem?_eq_getElem hlt, Option.map_some, Option.map_some,
      Option.map_some, if_pos (List.mem_singleton_self id)]
    rfl
  · have hne : j ∉ [id] := by simpa using Ne.symm hj
    rw [if_neg hj, Option.map_map]
    simp only [if_neg hne]
    rfl

/-- A database that is not known cannot be closed. -/
theorem run_close_unknown (hid : w.handles.length ≤ id) :
    (close id).run.run w = (.error (.fault .index), w) := by
  have hlt : w.databases.length ≤ id := by simpa [World.handles] using hid
  have hread : (World.database id).run.run w = (.error (.fault .index), w) := by
    rw [run_database, List.getElem?_eq_none hlt]
  exact run_bind_of_error hread _

end Database

namespace Pool

variable {w u : World} {id : Nat}

/-- Registers the models given with a connect, and answers with the database. -/
def answerWith (id : Nat) (models : Value) : Act Nat := do
  if models.isTruthy then Database.registerModels id models
  return id

/-- Whether models can be registered or not, connections stay what they are. -/
theorem run_answerWith (hid : id < w.handles.length) (models : Value) : ∃ u,
    (answerWith id models).run.run w = ((Database.givenModels models).map fun _ => id, u) ∧
      u.pool = w.pool ∧ u.handles = w.handles := by
  have hlt : id < w.databases.length := by simpa [World.handles] using hid
  have hd := List.getElem?_eq_getElem hlt
  have hread : (World.database id).run.run w = (.ok w.databases[id], w) := by rw [run_database, hd]
  unfold answerWith
  by_cases ht : models.isTruthy = true
  · rw [if_pos ht, Database.registerModels, bind_assoc, run_bind_of_ok hread,
      Database.withModels_eq _ ht]
    cases Database.givenModels models with
    | error e => exact ⟨w, rfl, rfl, rfl⟩
    | ok ms => exact ⟨_, rfl, rfl, Database.map_handle_set hd rfl⟩
  · rw [if_neg ht, Database.givenModels.eq_def, if_neg ht]
    exact ⟨w, rfl, rfl, rfl⟩

/-- What a connect is asked for: the server that a URL names, or a server. -/
inductive Target
  | url (v : Value)
  | server (s : Server)

def Target.resolve : Target → Except Error Server
  | .url v => Server.ofUrl v
  | .server s => .ok s

/-- The database of what a connect is asked for. -/
def connectTo (t : Target) (models : Value) (refusal : Option (Int × String) := none) : Act Nat := do
  connect (← Act.ofExcept t.resolve) models refusal

/-- All that a connect can do: fail when it is asked for no server, answer with the database that is
kept, fail with the driver and keep what was kept, or open a database and keep it. Models that cannot
be registered are reported at the end. -/
inductive Connects (w : World) (t : Target) (models : Value) :
    Option (Int × String) → Except Error Nat × World → Prop
  | unnamed {refusal : Option (Int × String)} {e : Error} (target : t.resolve = .error e) :
    Connects w t models refusal (.error e, w)
  | known {refusal : Option (Int × String)} {s : Server} {id : Nat} {u : World}
    (target : t.resolve = .ok s) (kept : Keyed.find? w.pool.cached s.identity = some id)
    (pool : u.pool = w.pool) (handles : u.handles = w.handles) :
    Connects w t models refusal ((Database.givenModels models).map fun _ => id, u)
  | refused {code : Int} {text : String} {s : Server} {u : World} (target : t.resolve = .ok s)
    (new : Keyed.find? w.pool.cached s.identity = none)
    (pool : u.pool = { w.pool with attempts := w.pool.attempts ++ [s] })
    (handles : u.handles = w.handles) :
    Connects w t models (some (code, text)) (.error (.database (.driver code text)), u)
  | opened {s : Server} {u : World} (target : t.resolve = .ok s)
    (new : Keyed.find? w.pool.cached s.identity = none)
    (pool : u.pool = { cached := w.pool.cached ++ [(s.identity, w.handles.length)]
                       attempts := w.pool.attempts ++ [s] })
    (handles : u.handles = w.handles ++ [⟨some s, true⟩]) :
    Connects w t models none ((Database.givenModels models).map fun _ => w.handles.length, u)

theorem run_connect (s : Server) (models : Value) (refusal : Option (Int × String)) (w : World) :
    (connect s models refusal).run.run w = (do
      let id ← match Keyed.find? w.pool.cached s.identity with
        | some id => pure id
        | none => openAt s refusal
      answerWith id models).run.run w := rfl

/-- A database that is opened gets the next number and is kept for the identity of its server. -/
theorem run_openAt {s : Server} (new : Keyed.find? w.pool.cached s.identity = none) : ∃ u,
    (openAt s none).run.run w = (.ok w.handles.length, u) ∧
      u.pool = { cached := w.pool.cached ++ [(s.identity, w.handles.length)]
                 attempts := w.pool.attempts ++ [s] } ∧
      u.handles = w.handles ++ [⟨some s, true⟩] := by
  have hput : Keyed.put w.pool.cached s.identity w.handles.length =
      w.pool.cached ++ [(s.identity, w.handles.length)] := by
    refine Keyed.put_of_not_mem (fun hmem => ?_) _
    simpa using Keyed.find?_eq_none_iff.mp new _ hmem
  have hlen : w.handles.length = w.databases.length := by simp [World.handles]
  rw [← hput, hlen]
  exact ⟨_, rfl, rfl, by simp [World.handles, Database.handle]⟩

theorem connectTo_connects (hw : ∀ id ∈ w.kept, id < w.handles.length) (t : Target)
    (models : Value) (refusal : Option (Int × String)) :
    Connects w t models refusal ((connectTo t models refusal).run.run w) := by
  rw [connectTo]
  cases ht : t.resolve with
  | error e => exact .unnamed ht
  | ok s =>
    have hok : (Act.ofExcept (.ok s) : Act Server).run.run w = (.ok s, w) := rfl
    rw [run_bind_of_ok hok, run_connect]
    cases hk : Keyed.find? w.pool.cached s.identity with
    | some id =>
      obtain ⟨k, -, hmem⟩ := Keyed.mem_of_find? hk
      obtain ⟨u, hrun, hp, hh⟩ := run_answerWith (hw id (List.mem_map_of_mem hmem)) models
      have hpure : (pure id : Act Nat).run.run w = (.ok id, w) := rfl
      dsimp only
      rw [run_bind_of_ok hpure, hrun]
      exact .known ht hk hp hh
    | none =>
      dsimp only
      cases refusal with
      | some r => exact .refused ht hk rfl rfl
      | none =>
        obtain ⟨v, hopen, hpv, hhv⟩ := run_openAt hk
        have hnew : w.handles.length < v.handles.length := by simp [hhv]
        obtain ⟨u, hrun, hpu, hhu⟩ := run_answerWith hnew models
        rw [run_bind_of_ok hopen, hrun]
        exact .opened ht hk (hpu.trans hpv) (hhu.trans hhv)

theorem run_closeEach (entries : List (Server.Identity × Nat))
    (h : ∀ e ∈ entries, e.2 < w.handles.length) : ∃ u,
    (entries.forM fun e => Database.close e.2 : Act Unit).run.run w = (.ok (), u) ∧
      u.pool = w.pool ∧ World.Shuts (entries.map (·.2)) w u := by
  induction entries generalizing w with
  | nil => exact ⟨w, rfl, rfl, .nil rfl⟩
  | cons e es ih =>
    obtain ⟨hlt, hes⟩ := List.forall_mem_cons.mp h
    obtain ⟨v, hv, hpv, hsv⟩ := Database.run_close hlt
    obtain ⟨u, hu, hpu, hsu⟩ := ih (w := v) (by rwa [hsv.length_eq])
    exact ⟨u, (run_bind_of_ok hv _).trans hu, hpu.trans hpv, hsv.append hsu⟩

theorem run_disconnectAll (hw : ∀ id ∈ w.kept, id < w.handles.length) : ∃ u,
    disconnectAll.run.run w = (.ok (), u) ∧ u.pool = { w.pool with cached := [] } ∧
      World.Shuts w.kept w u := by
  let v : World := { w with pool := { w.pool with cached := [] } }
  obtain ⟨u, hu, hp, hs⟩ := run_closeEach (w := v) w.pool.cached.reverse fun e he =>
    hw e.2 (List.mem_map_of_mem (List.mem_reverse.mp he))
  refine ⟨u, hu, hp, World.Shuts.congr (w := v) hs fun id => ?_⟩
  simp [World.kept]

/-! ### Runs -/

/-- A call that may open or close connections; a connect comes with the driver's refusal when it does
not open one. -/
inductive Call
  | connect (t : Target) (models : Value) (refusal : Option (Int × String))
  | close (id : Nat)
  | disconnectAll

def Call.run : Call → Act Unit
  | .connect t models refusal => do let _ ← connectTo t models refusal
  | .close id => Database.close id
  | .disconnectAll => Pool.disconnectAll

/-- The world after some calls, whether they fail or not. -/
def after (calls : List Call) (w : World) : World :=
  calls.foldl (fun w call => (call.run.run.run w).2) w

theorem after_append (calls more : List Call) (w : World) :
    after (calls ++ more) w = after more (after calls w) := List.foldl_append

theorem after_cons (call : Call) (calls : List Call) (w : World) :
    after (call :: calls) w = after calls (call.run.run.run w).2 := rfl

/-- All that a call can do to the pool and to the connections. -/
inductive Moves (w : World) : Call → World → Prop
  | stays {t : Target} {models : Value} {refusal : Option (Int × String)} {u : World}
    (cached : u.pool.cached = w.pool.cached) (handles : u.handles = w.handles) :
    Moves w (.connect t models refusal) u
  | opens {t : Target} {models : Value} {refusal : Option (Int × String)} {s : Server} {u : World}
    (new : Keyed.find? w.pool.cached s.identity = none)
    (cached : u.pool.cached = w.pool.cached ++ [(s.identity, w.handles.length)])
    (handles : u.handles = w.handles ++ [⟨some s, true⟩]) :
    Moves w (.connect t models refusal) u
  | shuts {id : Nat} {u : World} (cached : u.pool.cached = w.pool.cached)
    (shuts : World.Shuts [id] w u) : Moves w (.close id) u
  | empties {u : World} (cached : u.pool.cached = []) (shuts : World.Shuts w.kept w u) :
    Moves w .disconnectAll u

theorem moves (hw : ∀ id ∈ w.kept, id < w.handles.length) (call : Call) :
    Moves w call (call.run.run.run w).2 := by
  cases call with
  | connect t models refusal =>
    have hsnd : ((Call.connect t models refusal).run.run.run w).2 =
        ((connectTo t models refusal).run.run w).2 := by
      rw [Call.run, run_bind]
      rcases (connectTo t models refusal).run.run w with ⟨e | id, u⟩ <;> rfl
    have hc := connectTo_connects hw t models refusal
    rw [hsnd]
    generalize (connectTo t models refusal).run.run w = r at hc
    cases hc with
    | unnamed _ => exact .stays rfl rfl
    | known _ _ hp hh => exact .stays (by rw [hp]) hh
    | refused _ _ hp hh => exact .stays (by rw [hp]) hh
    | opened _ hn hp hh => exact .opens hn (by rw [hp]) hh
  | close id =>
    by_cases hid : id < w.handles.length
    · obtain ⟨u, hrun, hp, hs⟩ := Database.run_close hid
      rw [Call.run, hrun]
      exact .shuts (by rw [hp]) hs
    · rw [Call.run, Database.run_close_unknown (Nat.not_lt.mp hid)]
      exact .shuts rfl (World.shuts_unknown (Nat.not_lt.mp hid))
  | disconnectAll =>
    obtain ⟨u, hrun, hp, hs⟩ := run_disconnectAll hw
    rw [Call.run, hrun]
    exact .empties (by rw [hp]) hs

end Pool

end RowQuery
