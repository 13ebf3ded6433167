import RowQuery.Proofs.Pooling
import Mathlib.Data.List.Induction
import Mathlib.Data.List.Nodup

/-! What is open in the course of a run. The pool keeps a database for an identity, each opened at a
server of it, and whatever is open is kept; as long as no database is closed by hand, whatever is kept
is open. Two connects of one run give the same database exactly when they ask for the same identity
and the pool was not emptied between them. -/

namespace RowQuery.Pool

open Running

variable {w u v : World} {call : Call} {calls mid : List Call} {id i j : Nat}
  {k : Server.Identity}

/-! ### The invariant -/

/-- What holds of the pool at any time. -/
structure IsSound (w : World) : Prop where
  nodup : (Keyed.keys w.pool.cached).Nodup
  openedAt : ∀ e ∈ w.pool.cached, w.OpenedAt e.2 e.1
  kept_of_open : ∀ id, w.IsOpen id → id ∈ w.kept

theorem IsSound.empty : IsSound {} where
  nodup := List.nodup_nil
  openedAt := fun _ h => absurd h List.not_mem_nil
  kept_of_open := by
    rintro id ⟨h, hh, -⟩
    cases hh

theorem IsSound.lt (hw : IsSound w) : ∀ id ∈ w.kept, id < w.handles.length := by
  intro id hid
  obtain ⟨e, he, rfl⟩ := List.mem_map.mp hid
  exact (hw.openedAt e he).lt

/-- No database is kept for two identities. -/
theorem IsSound.nodup_kept (hw : IsSound w) : w.kept.Nodup := by
  have hcached : w.pool.cached.Nodup := List.Nodup.of_map _ hw.nodup
  refine hcached.map_on fun e he f hf hef => ?_
  have hkey : e.1 = f.1 := (hw.openedAt e he).unique (hef ▸ hw.openedAt f hf)
  exact Prod.ext hkey hef

/-! ### What a call leaves -/

theorem getElem?_of_opens {s : Server} (handles : u.handles = w.handles ++ [⟨some s, true⟩])
    (hid : id < w.handles.length) : u.handles[id]? = w.handles[id]? := by
  rw [handles, List.getElem?_append_left hid]

theorem getElem?_new {s : Server} (handles : u.handles = w.handles ++ [⟨some s, true⟩]) :
    u.handles[w.handles.length]? = some ⟨some s, true⟩ := by
  rw [handles, List.getElem?_concat_length]

namespace Moves

theorem openedAt (hm : Moves w call u) (h : w.OpenedAt id k) : u.OpenedAt id k := by
  cases hm with
  | stays _ hh => exact (World.openedAt_congr (by rw [hh])).mpr h
  | opens _ _ hh => exact (World.openedAt_congr (getElem?_of_opens hh h.lt)).mpr h
  | shuts _ hs => exact hs.openedAt_iff.mpr h
  | empties _ hs => exact hs.openedAt_iff.mpr h

theorem length_le (hm : Moves w call u) : w.handles.length ≤ u.handles.length := by
  cases hm with
  | stays _ hh => exact Nat.le_of_eq (congrArg List.length hh).symm
  | opens _ _ hh => simp [hh]
  | shuts _ hs => exact Nat.le_of_eq hs.length_eq.symm
  | empties _ hs => exact Nat.le_of_eq hs.length_eq.symm

/-- What is kept stays kept until the pool is emptied. -/
theorem mem_cached (hm : Moves w call u) (hc : call ≠ .disconnectAll)
    {e : Server.Identity × Nat} (he : e ∈ w.pool.cached) : e ∈ u.pool.cached := by
  cases hm with
  | stays hp _ => rwa [hp]
  | opens _ hp _ =>
    rw [hp]
    exact List.mem_append_left _ he
  | shuts hp _ => rwa [hp]
  | empties _ _ => exact absurd rfl hc

/-- A database that is not kept any more is never kept again. -/
theorem not_mem_kept (hm : Moves w call u) (hid : id < w.handles.length) (h : id ∉ w.kept) :
    id ∉ u.kept := by
  unfold World.kept at *
  cases hm with
  | stays hp _ => rwa [hp]
  | opens _ hp _ =>
    rw [hp, List.map_append, List.mem_append, not_or]
    exact ⟨h, by simpa using Nat.ne_of_lt hid⟩
  | shuts hp _ => rwa [hp]
  | empties hp _ => simp [hp]

theorem isSound (hw : IsSound w) (hm : Moves w call u) : IsSound u where
  nodup := by
    cases hm with
    | stays hp _ =>
      rw [hp]
      exact hw.nodup
    | @opens _ _ _ s _ hn hp _ =>
      have hnew : s.identity ∉ Keyed.keys w.pool.cached := fun hmem => by
        simpa using Keyed.find?_eq_none_iff.mp hn _ hmem
      rw [hp, ← Keyed.put_of_not_mem hnew]
      exact Keyed.nodup_keys_put hw.nodup _
    | shuts hp _ =>
      rw [hp]
      exact hw.nodup
    | empties hp _ =>
      rw [hp]
      exact List.nodup_nil
  openedAt := by
    intro e he
    by_cases hold : e ∈ w.pool.cached
    · exact hm.openedAt (hw.openedAt e hold)
    · cases hm with
      | stays hp _ => exact absurd (hp ▸ he) hold
      | @opens _ _ _ s _ _ hp hh =>
        rw [hp, List.mem_append, List.mem_singleton] at he
        obtain rfl := he.resolve_left hold
        exact ⟨_, s, getElem?_new hh, rfl, rfl⟩
      | shuts hp _ => exact absurd (hp ▸ he) hold
      | empties hp _ =>
        rw [hp] at he
        exact absurd he List.not_mem_nil
  kept_of_open := by
    intro id hid
    unfold World.kept
    cases hm with
    | stays hp hh =>
      rw [hp]
      exact hw.kept_of_open id ((World.isOpen_congr (by rw [hh])).mp hid)
    | opens _ hp hh =>
      rw [hp, List.map_append, List.mem_append]
      rcases Nat.lt_trichotomy id w.handles.length with hlt | rfl | hgt
      · exact .inl (hw.kept_of_open id ((World.isOpen_congr (getElem?_of_opens hh hlt)).mp hid))
      · exact .inr (List.mem_singleton_self _)
      · obtain ⟨d, hd, -⟩ := hid
        rw [List.getElem?_eq_none (by rw [hh]; simpa using Nat.succ_le_of_lt hgt)] at hd
        cases hd
    | shuts hp hs =>
      rw [hp]
      exact hw.kept_of_open id (hs.isOpen_iff.mp hid).1
    | empties _ hs =>
      obtain ⟨ho, hn⟩ := hs.isOpen_iff.mp hid
      exact absurd (hw.kept_of_open id ho) hn

/-- What is kept is open, as long as no database is closed by hand. -/
theorem isOpen_of_kept (hm : Moves w call u) (hc : ∀ id, call ≠ .close id)
    (ho : ∀ id ∈ w.kept, w.IsOpen id) : ∀ id ∈ u.kept, u.IsOpen id := by
  intro id hid
  unfold World.kept at hid
  cases hm with
  | stays hp hh => exact (World.isOpen_congr (by rw [hh])).mpr (ho id (by rwa [hp] at hid))
  | opens _ hp hh =>
    rw [hp, List.map_append, List.mem_append] at hid
    rcases hid with hid | hid
    · have hopen := ho id hid
      exact (World.isOpen_congr (getElem?_of_opens hh hopen.lt)).mpr hopen
    · obtain rfl := List.mem_singleton.mp hid
      exact ⟨_, getElem?_new hh, rfl⟩
  | shuts _ _ => exact absurd rfl (hc _)
  | empties hp _ =>
    rw [hp] at hid
    exact absurd hid List.not_mem_nil

end Moves

/-! ### Runs -/

theorem IsSound.moves (hw : IsSound w) (call : Call) : Moves w call (call.run.run.run w).2 :=
  Pool.moves hw.lt call

theorem isSound_after (hw : IsSound w) (calls : List Call) : IsSound (after calls w) := by
  induction calls generalizing w with
  | nil => exact hw
  | cons call calls ih => exact ih ((hw.moves call).isSound hw)

/-- Whatever a call keeps true is true after a run. -/
theorem after_induction {P : World → Prop} (hw : IsSound w) (hP : P w)
    (hstep : ∀ w u, ∀ call ∈ calls, Moves w call u → P w → P u) : P (after calls w) := by
  induction calls generalizing w with
  | nil => exact hP
  | cons call calls ih =>
    have hm := hw.moves call
    refine ih (hm.isSound hw) (hstep w _ call List.mem_cons_self hm hP) fun w u c hc => ?_
    exact hstep w u c (List.mem_cons_of_mem call hc)

theorem IsSound.length_le (hw : IsSound w) (calls : List Call) :
    w.handles.length ≤ (after calls w).handles.length :=
  after_induction (P := fun u => w.handles.length ≤ u.handles.length) hw (Nat.le_refl _)
    fun _ _ _ _ hm h => Nat.le_trans h hm.length_le

theorem IsSound.openedAt_after (hw : IsSound w) (calls : List Call) (h : w.OpenedAt id k) :
    (after calls w).OpenedAt id k :=
  after_induction (P := fun u => u.OpenedAt id k) hw h fun _ _ _ _ hm h => hm.openedAt h

/-- A connect that succeeds answers with the database that is kept from then on. -/
theorem connectTo_eq_ok {t : Target} {models : Value} {refusal : Option (Int × String)}
    (hw : IsSound w) (h : (connectTo t models refusal).run.run w = (.ok id, u)) : ∃ s,
    t.resolve = .ok s ∧ Moves w (.connect t models refusal) u ∧
      (s.identity, id) ∈ u.pool.cached := by
  have hc := connectTo_connects hw.lt t models refusal
  rw [h] at hc
  generalize hr : (Except.ok id : Except Error Nat) = r at hc
  cases hc with
  | unnamed _ => cases hr
  | known hs hk hp hh =>
    obtain ⟨-, -, rfl⟩ := Result.map_eq_ok.mp hr.symm
    refine ⟨_, hs, .stays (by rw [hp]) hh, ?_⟩
    rw [hp]
    exact (Keyed.find?_eq_some_iff hw.nodup).mp hk
  | refused _ _ _ _ => cases hr
  | opened hs hn hp hh =>
    obtain ⟨-, -, rfl⟩ := Result.map_eq_ok.mp hr.symm
    refine ⟨_, hs, .opens hn (by rw [hp]) hh, ?_⟩
    rw [hp]
    exact List.mem_append_right _ (List.mem_singleton_self _)

/-! ### Connects of one run -/

variable {t₁ t₂ : Target} {s₁ s₂ : Server} {m₁ m₂ : Value} {r₁ r₂ : Option (Int × String)}

/-- A database that is known when the pool is emptied is not kept after any later call. -/
theorem not_mem_kept_of_emptied (hw : IsSound w) (hid : id < w.handles.length)
    (h : Call.disconnectAll ∈ calls) : id ∉ (after calls w).kept := by
  obtain ⟨xs, ys, rfl⟩ := List.append_of_mem h
  rw [after_append, after_cons]
  have hxs := isSound_after hw xs
  have hlt : id < (after xs w).handles.length := Nat.lt_of_lt_of_le hid (hw.length_le xs)
  have hm := hxs.moves .disconnectAll
  have hgone : id ∉ (Call.disconnectAll.run.run.run (after xs w)).2.kept := by
    unfold World.kept
    cases hm with
    | empties hp _ => simp [hp]
  exact (after_induction (P := fun w => id < w.handles.length ∧ id ∉ w.kept) (hm.isSound hxs)
    ⟨Nat.lt_of_lt_of_le hlt hm.length_le, hgone⟩
    fun _ _ _ _ hm h => ⟨Nat.lt_of_lt_of_le h.1 hm.length_le, hm.not_mem_kept h.1 h.2⟩).2

/-- Two connects give one database exactly when they ask for one identity and the pool was not
emptied between them. -/
theorem same_database_iff (hw : IsSound w) (h₁ : t₁.resolve = .ok s₁) (h₂ : t₂.resolve = .ok s₂)
    (hi : (connectTo t₁ m₁ r₁).run.run w = (.ok i, u))
    (hj : (connectTo t₂ m₂ r₂).run.run (after mid u) = (.ok j, v)) :
    i = j ↔ s₁.identity = s₂.identity ∧ Call.disconnectAll ∉ mid := by
  obtain ⟨s, hs, hm₁, hc₁⟩ := connectTo_eq_ok hw hi
  obtain rfl := Except.ok.inj (h₁.symm.trans hs)
  have hu := hm₁.isSound hw
  obtain ⟨s, hs, hm₂, hc₂⟩ := connectTo_eq_ok (isSound_after hu mid) hj
  obtain rfl := Except.ok.inj (h₂.symm.trans hs)
  have hv := hm₂.isSound (isSound_after hu mid)
  have hat : u.OpenedAt i s₁.identity := hu.openedAt _ hc₁
  constructor
  · rintro rfl
    have hlast : v.OpenedAt i s₁.identity := hm₂.openedAt (hu.openedAt_after mid hat)
    refine ⟨hlast.unique (hv.openedAt _ hc₂), fun hmem => ?_⟩
    have hlt : i < (after mid u).handles.length := (hu.openedAt_after mid hat).lt
    exact hm₂.not_mem_kept hlt (not_mem_kept_of_emptied hu hat.lt hmem) (List.mem_map_of_mem hc₂)
  · rintro ⟨hk, hn⟩
    have hkept : (s₁.identity, i) ∈ (after mid u).pool.cached :=
      after_induction (P := fun w => (s₁.identity, i) ∈ w.pool.cached) hu hc₁
        fun _ _ _ hc hm h => hm.mem_cached (ne_of_mem_of_not_mem hc hn) h
    have hfound := (Keyed.find?_eq_some_iff hv.nodup).mpr (hm₂.mem_cached nofun hkept)
    rw [hk, (Keyed.find?_eq_some_iff hv.nodup).mpr hc₂] at hfound
    exact (Option.some.inj hfound).symm

/-- The open connections are those of the databases in the pool, one for each identity. -/
structure IsExact (w : World) : Prop where
  isOpen_iff : ∀ id, w.IsOpen id ↔ id ∈ w.kept
  nodup : (Keyed.keys w.pool.cached).Nodup
  nodup_kept : w.kept.Nodup
  openedAt : ∀ e ∈ w.pool.cached, w.OpenedAt e.2 e.1

theorem IsSound.isExact (hw : IsSound w) (ho : ∀ id ∈ w.kept, w.IsOpen id) : IsExact w where
  isOpen_iff := fun id => ⟨hw.kept_of_open id, ho id⟩
  nodup := hw.nodup
  nodup_kept := hw.nodup_kept
  openedAt := hw.openedAt

/-- After any run of connects and disconnects, what is open is what is kept, once for each identity. A
connect for an identity that is kept opens nothing and gives its database; a refusal of the driver
leaves what is kept as it is; two connects of the run give one database exactly when they ask for one
identity and the pool was not emptied between them; and emptying it leaves nothing open or kept. -/
theorem connections_are_kept (calls : List Call) (hc : ∀ id, Call.close id ∉ calls) :
    IsExact (after calls {}) ∧
      (∀ t models refusal, Connects (after calls {}) t models refusal
        ((connectTo t models refusal).run.run (after calls {}))) ∧
      (∀ before mid t₁ m₁ r₁ s₁ i u t₂ m₂ r₂ s₂ j v,
        calls = before ++ .connect t₁ m₁ r₁ :: mid →
        t₁.resolve = .ok s₁ → (connectTo t₁ m₁ r₁).run.run (after before {}) = (.ok i, u) →
        t₂.resolve = .ok s₂ → (connectTo t₂ m₂ r₂).run.run (after calls {}) = (.ok j, v) →
        (i = j ↔ s₁.identity = s₂.identity ∧ .disconnectAll ∉ mid)) ∧
      ∃ u, disconnectAll.run.run (after calls {}) = (.ok (), u) ∧ u.pool.cached = [] ∧
        ∀ id, ¬ u.IsOpen id := by
  have hw := isSound_after .empty calls
  refine ⟨hw.isExact ?_, fun t models refusal => connectTo_connects hw.lt t models refusal, ?_, ?_⟩
  · refine after_induction (P := fun w => ∀ id ∈ w.kept, w.IsOpen id) .empty
      (fun _ h => absurd h List.not_mem_nil) fun _ _ call hcall hm h => ?_
    exact hm.isOpen_of_kept (fun id he => hc id (he ▸ hcall)) h
  · rintro before mid t₁ m₁ r₁ s₁ i u t₂ m₂ r₂ s₂ j v rfl h₁ hi h₂ hj
    have hmid : after (before ++ .connect t₁ m₁ r₁ :: mid) {} = after mid u := by
      rw [after_append, after_cons, Call.run, run_bind_of_ok hi]
      rfl
    rw [hmid] at hj
    exact same_database_iff (isSound_after .empty before) h₁ h₂ hi hj
  · obtain ⟨u, hu, hp, hs⟩ := run_disconnectAll hw.lt
    refine ⟨u, hu, by rw [hp], fun id ho => ?_⟩
    obtain ⟨hopen, hn⟩ := hs.isOpen_iff.mp ho
    exact hn (hw.kept_of_open id hopen)

/-- A URL of a database, and another spelling of it. -/
def shopUrl : Value := .text "mysql://app:pw@db/shop"

def respelledUrl : Value := .text "MYSQL://app:p%77@DB:3306/shop/"

/-- Another database of the same server. -/
def stock : Server := { user := "app", database := "stock", password := "pw", host := "db" }

/-- Connects to two databases. -/
def twoDatabases : List Call :=
  [.connect (.url shopUrl) .null none, .connect (.server stock) .null none]

/-- The other spelling gives the database that is kept for the first one. -/
theorem respelledUrl_kept : (∀ id, Call.close id ∉ twoDatabases) ∧
    IsExact (after twoDatabases {}) ∧
    (∃ u, (connectTo (.url shopUrl) .null).run.run {} = (.ok 0, u)) ∧
    (∃ j v, (connectTo (.url respelledUrl) .null).run.run (after twoDatabases {}) = (.ok j, v)) ∧
    ∀ j v, (connectTo (.url respelledUrl) .null).run.run (after twoDatabases {}) = (.ok j, v) →
      0 = j := by
  have hc : ∀ id, Call.close id ∉ twoDatabases := by simp [twoDatabases]
  obtain ⟨hexact, -, hsame, -⟩ := connections_are_kept twoDatabases hc
  refine ⟨hc, hexact, ⟨_, rfl⟩, ⟨_, _, rfl⟩, fun j v hj => ?_⟩
  refine (hsame [] [.connect (.server stock) .null none] (.url shopUrl) .null none _ 0 _
    (.url respelledUrl) .null none _ j v rfl rfl rfl rfl hj).mpr ⟨rfl, by simp⟩

/-! ### Databases that are closed by hand -/

/-- In the course of the calls, a database with this number that was known was closed by hand. -/
def ClosedIn (calls : List Call) (id : Nat) : Prop :=
  ∃ before rest, calls = before ++ .close id :: rest ∧ id < (after before {}).handles.length

theorem closedIn_concat : ClosedIn (calls ++ [call]) id ↔
    ClosedIn calls id ∨ call = .close id ∧ id < (after calls {}).handles.length := by
  constructor
  · rintro ⟨before, rest, heq, hid⟩
    rcases List.eq_nil_or_concat' rest with rfl | ⟨rest, final, rfl⟩
    · obtain ⟨rfl, hlast⟩ := List.append_inj' heq rfl
      exact .inr ⟨List.head_eq_of_cons_eq hlast, hid⟩
    · rw [← List.cons_append, ← List.append_assoc] at heq
      exact .inl ⟨before, rest, (List.append_inj' heq rfl).1, hid⟩
  · rintro (⟨before, rest, rfl, hid⟩ | ⟨rfl, hid⟩)
    · exact ⟨before, rest ++ [call], by simp, hid⟩
    · exact ⟨calls, [], rfl, hid⟩

theorem ClosedIn.lt (h : ClosedIn calls id) : id < (after calls {}).handles.length := by
  obtain ⟨before, rest, rfl, hid⟩ := h
  rw [after_append]
  exact Nat.lt_of_lt_of_le hid ((isSound_after .empty before).length_le _)

/-- What is kept is open exactly when it was not closed by hand. -/
theorem isOpen_iff_of_kept (calls : List Call) : ∀ id ∈ (after calls {}).kept,
    ((after calls {}).IsOpen id ↔ ¬ ClosedIn calls id) := by
  induction calls using List.reverseRecOn with
  | nil => exact fun _ h => absurd h List.not_mem_nil
  | append_singleton calls call ih =>
    intro id hid
    have hw := isSound_after .empty calls
    have hm := hw.moves call
    have hlast : after (calls ++ [call]) {} = (call.run.run.run (after calls {})).2 := by
      rw [after_append]
      rfl
    rw [hlast] at hid ⊢
    rw [closedIn_concat]
    generalize (call.run.run.run (after calls {})).2 = u at hid hm
    unfold World.kept at hid
    cases hm with
    | stays hp hh =>
      rw [hp] at hid
      refine (World.isOpen_congr (w := after calls {}) (by rw [hh])).trans ?_
      simpa using ih id hid
    | opens _ hp hh =>
      rw [hp, List.map_append, List.mem_append] at hid
      rcases hid with hid | hid
      · refine (World.isOpen_congr (getElem?_of_opens hh (hw.lt id hid))).trans ?_
        simpa using ih id hid
      · obtain rfl := List.mem_singleton.mp hid
        have hnew : ¬ ClosedIn calls (after calls {}).handles.length := fun h => Nat.lt_irrefl _ h.lt
        refine iff_of_true ⟨_, getElem?_new hh, rfl⟩ ?_
        simpa using hnew
    | shuts hp hs =>
      rw [hp] at hid
      have hlt := hw.lt id hid
      rw [hs.isOpen_iff, ih id hid, List.mem_singleton, Call.close.injEq, not_or]
      simp [hlt, eq_comm]
    | empties hp _ =>
      rw [hp] at hid
      exact absurd hid List.not_mem_nil

/-- The database that a connect answers with is open exactly when it was not closed by hand before:
closing it does not take it out of the pool. -/
theorem returned_isOpen_iff {t : Target} {models : Value} {refusal : Option (Int × String)}
    (h : (connectTo t models refusal).run.run (after calls {}) = (.ok id, u)) :
    u.IsOpen id ↔ ¬ ClosedIn calls id := by
  obtain ⟨s, -, -, hmem⟩ := connectTo_eq_ok (isSound_after .empty calls) h
  have hu : after (calls ++ [.connect t models refusal]) {} = u := by
    rw [after_append, after_cons, Call.run, run_bind_of_ok h]
    rfl
  have hiff := isOpen_iff_of_kept (calls ++ [.connect t models refusal]) id
  rw [hu, closedIn_concat] at hiff
  simpa using hiff (List.mem_map_of_mem hmem)

/-- A database that was closed by hand is handed out again, and it is not open. -/
theorem closedHandle_returned : ∃ u,
    (connectTo (.url shopUrl) .null).run.run
      (after [.connect (.url shopUrl) .null none, .close 0] {}) = (.ok 0, u) ∧ ¬ u.IsOpen 0 := by
  refine ⟨_, rfl, fun h => ?_⟩
  obtain ⟨d, hd, ho⟩ := h
  obtain rfl := Option.some.inj hd
  cases ho

end RowQuery.Pool
