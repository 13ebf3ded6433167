import RowQuery.Proofs.CachedRows
import RowQuery.Proofs.ValueEquality

/-! The distinct values of a column. A value is listed when no row before holds an equal one, so the
list is read off the rows that hold a value first, in their order. -/

namespace RowQuery.Query

open Running

/-! ### Values seen first -/

/-- The value at a place is equal to none before it. -/
def IsFirst (values : List Value) (i : Nat) : Prop :=
  ∃ v, values[i]? = some v ∧ ∀ u ∈ values.take i, ¬ u.Equals v

/-- A list of values seen, with the places where each was seen first. -/
structure FirstSeen (values seen : List Value) (places : List Nat) : Prop where
  ascending : places.Pairwise (· < ·)
  mem_places : ∀ i, i ∈ places ↔ IsFirst values i
  members : seen.map some = places.map fun i => values[i]?
  covered : ∀ v ∈ values, ∃ u ∈ seen, u.Equals v ∧ v.Equals u
  apart : seen.Pairwise fun u v => ¬ u.Equals v ∧ ¬ v.Equals u

theorem IsFirst.lt {values : List Value} {i : Nat} (h : IsFirst values i) : i < values.length := by
  obtain ⟨v, hv, -⟩ := h
  exact (List.getElem?_eq_some_iff.mp hv).1

/-- A value at the end is first when it is equal to none of the others. -/
theorem isFirst_concat (values : List Value) (v : Value) (i : Nat) : IsFirst (values ++ [v]) i ↔
    IsFirst values i ∨ i = values.length ∧ ∀ u ∈ values, ¬ u.Equals v := by
  rcases lt_trichotomy i values.length with hi | rfl | hi
  · rw [IsFirst, IsFirst, List.getElem?_append_left hi, List.take_append_of_le_length hi.le]
    exact (or_iff_left fun h => hi.ne h.1).symm
  · rw [IsFirst, List.getElem?_concat_length, List.take_left]
    constructor
    · rintro ⟨w, hw, h⟩
      obtain rfl := Option.some.inj hw
      exact .inr ⟨rfl, h⟩
    · rintro (h | ⟨-, h⟩)
      · exact absurd h.lt (lt_irrefl _)
      · exact ⟨v, rfl, h⟩
  · refine iff_of_false (fun h => ?_) ?_
    · have hlt := h.lt
      rw [List.length_append, List.length_singleton] at hlt
      omega
    · rintro (h | ⟨rfl, -⟩)
      · exact absurd h.lt hi.asymm
      · exact lt_irrefl _ hi

namespace FirstSeen

variable {values seen : List Value} {places : List Nat} {v : Value}

theorem lt (h : FirstSeen values seen places) {i : Nat} (hi : i ∈ places) : i < values.length :=
  ((h.mem_places i).mp hi).lt

/-- Members are values. -/
theorem mem_values (h : FirstSeen values seen places) {u : Value} (hu : u ∈ seen) :
    u ∈ values := by
  have hmem : some u ∈ places.map fun i => values[i]? := h.members ▸ List.mem_map_of_mem hu
  obtain ⟨i, -, hi⟩ := List.mem_map.mp hmem
  exact List.mem_of_getElem? hi

theorem nil : FirstSeen [] [] [] where
  ascending := .nil
  mem_places i := iff_of_false List.not_mem_nil fun hi => absurd hi.lt i.not_lt_zero
  members := rfl
  covered := by
    intro v hv
    cases hv
  apart := .nil

/-- The places of the members are the same among more values. -/
theorem members_concat (h : FirstSeen values seen places) (v : Value) :
    seen.map some = places.map fun i => (values ++ [v])[i]? := by
  rw [h.members]
  exact List.map_congr_left fun i hi => (List.getElem?_append_left (h.lt hi)).symm

/-- A value equal to a member is not seen first. -/
theorem concat_of_equal (h : FirstSeen values seen places) {u : Value} (hu : u ∈ seen)
    (heq : u.Equals v) (hs : v.Equals u) :
    FirstSeen (values ++ [v]) seen places where
  ascending := h.ascending
  mem_places i := by
    rw [isFirst_concat, h.mem_places]
    exact (or_iff_left fun hi => hi.2 u (h.mem_values hu) heq).symm
  members := h.members_concat v
  covered := by
    intro w hw
    rcases List.mem_append.mp hw with hw | hw
    · exact h.covered w hw
    · obtain rfl := List.mem_singleton.mp hw
      exact ⟨u, hu, heq, hs⟩
  apart := h.apart

/-- A value equal to no member is seen first and becomes one. -/
theorem concat_of_new (h : FirstSeen values seen places) (hvalues : ∀ u ∈ values, u.isOrdinary)
    (hv : EquatesAt Value.Equals v) (hnew : ∀ u ∈ seen, ¬ u.Equals v) :
    FirstSeen (values ++ [v]) (seen ++ [v]) (places ++ [values.length]) where
  ascending := by
    refine List.pairwise_append.mpr ⟨h.ascending, List.pairwise_singleton _ _, fun i hi j hj => ?_⟩
    obtain rfl := List.mem_singleton.mp hj
    exact h.lt hi
  mem_places i := by
    rw [isFirst_concat, ← h.mem_places, List.mem_append, List.mem_singleton]
    refine or_congr_right (iff_self_and.mpr fun _ u hu huv => ?_)
    -- a value equal to the new one has an equal member, and so would the new one
    obtain ⟨m, hm, hmu, -⟩ := h.covered u hu
    have hordinary := m.equatesAt (hvalues m (h.mem_values hm))
    exact hnew m hm (hordinary.trans u v hmu huv)
  members := by
    rw [List.map_append, List.map_append, h.members_concat v]
    simp
  covered := by
    intro w hw
    rcases List.mem_append.mp hw with hw | hw
    · obtain ⟨u, hu, hequal⟩ := h.covered w hw
      exact ⟨u, List.mem_append_left _ hu, hequal⟩
    · obtain rfl := List.mem_singleton.mp hw
      exact ⟨w, List.mem_append_right _ hw, hv.refl, hv.refl⟩
  apart := by
    refine List.pairwise_append.mpr ⟨h.apart, List.pairwise_singleton _ _, fun u hu w hw => ?_⟩
    obtain rfl := List.mem_singleton.mp hw
    exact ⟨hnew u hu, fun hwu => hnew u hu (hv.symm u hwu)⟩

end FirstSeen

theorem distinct_concat (values : List Value) (v : Value) : distinct (values ++ [v]) =
    if (distinct values).any fun u => u.same v then distinct values
    else distinct values ++ [v] := by
  rw [distinct, List.foldl_append]
  rfl

/-- The distinct values of a list are those seen first. -/
theorem distinct_firstSeen {values : List Value} (h : ∀ v ∈ values, v.isOrdinary) :
    ∃ places, FirstSeen values (distinct values) places := by
  induction values using List.reverseRecOn with
  | nil => exact ⟨[], .nil⟩
  | append_singleton values v ih =>
    obtain ⟨hvalues, hv⟩ := List.forall_mem_append.mp h
    have hv := v.equatesAt (hv v (List.mem_singleton_self v))
    -- what is listed so far is what was seen first so far, and the next value is new to it or not
    obtain ⟨places, hplaces⟩ := ih hvalues
    rw [distinct_concat]
    split
    · rename_i hany
      obtain ⟨u, hu, huv⟩ := List.any_eq_true.mp hany
      have hordinary := u.equatesAt (hvalues u (hplaces.mem_values hu))
      exact ⟨places, hplaces.concat_of_equal hu huv (hordinary.symm v huv)⟩
    · rename_i hany
      refine ⟨_, hplaces.concat_of_new hvalues hv fun u hu huv => hany ?_⟩
      exact List.any_eq_true.mpr ⟨u, hu, huv⟩

/-- True and one are one value, also in lists. -/
example : distinct [.list [.bool true], .int 1, .list [.int 1], .bool true, .int 0, .null] =
    [.list [.bool true], .int 1, .int 0, .null] := rfl

/-! ### The values of a column -/

variable {p u : Query × World} {key : Value} {ids : List Nat} {values : List Value}

/-- The query has rows with these numbers: it keeps them, or fetches them into this state. -/
def Obtains (p : Query × World) (ids : List Nat) (u : Query × World) : Prop :=
  p.1.results = some ids ∧ u = p ∨ p.1.results = none ∧ fetch.run.run p = (.ok ids, u)

/-- The rows are kept then. -/
theorem Obtains.again (h : Obtains p ids u) : Obtains u ids u := by
  refine .inl ⟨?_, rfl⟩
  rcases h with ⟨hr, rfl⟩ | ⟨-, hf⟩
  · exact hr
  · rcases run_fetch .null p with ⟨jds, w, hok⟩ | ⟨e, w, herror⟩
    · obtain ⟨hids, rfl⟩ := Prod.mk.inj (hf.symm.trans hok)
      rw [Except.ok.inj hids]
    · cases hf.symm.trans herror

/-- The rows with these numbers have these values for a name. -/
def HoldAt (w : World) (key : Value) (ids : List Nat) (values : List Value) : Prop :=
  List.Forall₂ (fun id v => ∃ r, w.rows[id]? = some r ∧ r.get key = .ok v) ids values

theorem run_values {w : World} (h : HoldAt w key ids values) :
    (ids.mapM fun id => do Act.ofFault ((← World.row id).get key)).run.run w =
      (.ok values, w) := by
  induction h with
  | nil => rfl
  | @cons id v ids values hv _ ih =>
    obtain ⟨r, hr, hget⟩ := hv
    have hvalue : (do Act.ofFault ((← World.row id).get key) : Act Value).run.run w =
        (.ok v, w) := by
      rw [run_bind_of_ok (run_row_eq_ok.mpr ⟨hr, rfl⟩), run_ofFault, hget]
      rfl
    rw [List.mapM_cons, run_bind_of_ok hvalue, run_bind_of_ok ih]
    rfl

/-- The distinct values are read off the rows, and nothing else happens. -/
theorem run_pluck_eq (h : Obtains p ids u) (hrows : HoldAt u.2 key ids values) :
    (pluck key).run.run p = (.ok (distinct values), u) := by
  have hget : (get : QueryAct (Query × World)).run.run p = (.ok p, p) := rfl
  have hread : (onWorld do
      let values ← ids.mapM fun id => do Act.ofFault ((← World.row id).get key)
      return distinct values : QueryAct (List Value)).run.run u = (.ok (distinct values), u) := by
    rw [run_onWorld, run_bind_of_ok (run_values hrows)]
    rfl
  rw [pluck, run_bind_of_ok hget]
  rcases h with ⟨hr, rfl⟩ | ⟨hn, hf⟩
  · simp only [hr]
    exact hread
  · simp only [hn]
    rw [run_bind_of_ok hf]
    exact hread

/-- The values of a column are those seen first in the rows, in their order, and when they are asked
for again, nothing is sent and they are the same. -/
theorem pluck_firstSeen (h : Obtains p ids u) (hrows : HoldAt u.2 key ids values)
    (hvalues : ∀ v ∈ values, v.isOrdinary) : ∃ seen places,
      (pluck key).run.run p = (.ok seen, u) ∧ FirstSeen values seen places ∧
        (pluck key).run.run u = (.ok seen, u) := by
  obtain ⟨places, hplaces⟩ := distinct_firstSeen hvalues
  exact ⟨_, places, run_pluck_eq h hrows, hplaces, run_pluck_eq h.again hrows⟩

/-- All users of a database that answers with the marks of five of them. -/
def markedUsers : Query × World where
  fst := allUsers.1
  snd := { allUsers.2 with
    connection := { queue := [.result ["mark"] [[.bool true], [.list [.int 0]], [.int 1],
      [.list [.bool false]], [.float (.finite false 4503599627370496 (-52))]] 5 .null] } }

def marks : List Value := [.bool true, .list [.int 0], .int 1, .list [.bool false],
  .float (.finite false 4503599627370496 (-52))]

/-- A user with a mark. -/
def markedUser (mark : Value) : Row where
  model := .record
  fields := []
  extras := [("mark", mark)]
  given := []
  owner := some (.table allUsers.1.table)
  isNew := .bool false

theorem run_fetch_markedUsers : ∃ u, fetch.run.run markedUsers = (.ok [0, 1, 2, 3, 4], u) ∧
    u.2.rows = marks.map markedUser := by
  have hfetch := @run_fetch_of_rows markedUsers _ _ _ _ _ (marks.map markedUser) rfl rfl rfl rfl rfl
  exact ⟨_, hfetch, rfl⟩

theorem markedUsers_obtains :
    Obtains markedUsers [0, 1, 2, 3, 4] (fetch.run.run markedUsers).2 := by
  obtain ⟨u, hu, -⟩ := run_fetch_markedUsers
  exact .inr ⟨rfl, by rw [hu]⟩

theorem markedUsers_holdAt :
    HoldAt (fetch.run.run markedUsers).2.2 (.text "mark") [0, 1, 2, 3, 4] marks := by
  obtain ⟨u, hu, hrows⟩ := run_fetch_markedUsers
  rw [HoldAt, hu, hrows]
  exact .cons ⟨_, rfl, rfl⟩ (.cons ⟨_, rfl, rfl⟩ (.cons ⟨_, rfl, rfl⟩
    (.cons ⟨_, rfl, rfl⟩ (.cons ⟨_, rfl, rfl⟩ .nil))))

/-- The first two marks are seen first, and the others are equal to one of them. -/
theorem markedUsers_pluck : ∃ seen places, seen = [.bool true, .list [.int 0]] ∧
    (pluck (.text "mark")).run.run markedUsers = (.ok seen, (fetch.run.run markedUsers).2) ∧
    FirstSeen marks seen places ∧
    (pluck (.text "mark")).run.run (fetch.run.run markedUsers).2 =
      (.ok seen, (fetch.run.run markedUsers).2) := by
  have hordinary : ∀ v ∈ marks, v.isOrdinary = true := by decide +kernel
  obtain ⟨seen, places, hrun, hseen, hagain⟩ :=
    pluck_firstSeen markedUsers_obtains markedUsers_holdAt hordinary
  refine ⟨seen, places, ?_, hrun, hseen, hagain⟩
  have hdistinct := run_pluck_eq markedUsers_obtains markedUsers_holdAt
  rw [← Except.ok.inj (Prod.mk.inj (hdistinct.symm.trans hrun)).1]
  rfl

end RowQuery.Query
