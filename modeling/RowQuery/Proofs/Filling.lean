import RowQuery.Condition.Rendering
import RowQuery.Proofs.Scan

/-! Pieces in the places of placeholders. Replacing the characters at the offsets of the
placeholders is the same as reading the text and writing the next piece for every placeholder, and
the second form splits where the text does. A leaf is its text filled with the marks of its values;
filling these marks with the bound values gives the text filled with the values as they were. -/

namespace RowQuery.Sql

section Generic
variable {α : Type}

/-- The text from offset `i` on with a piece in the place of the character at each listed offset. -/
def substitute (char : Char → α) : (i : Nat) → List Char → List (Nat × List α) → List α
  | _, [], _ => []
  | _, c :: cs, [] => (c :: cs).map char
  | i, c :: cs, (at_, piece) :: rest =>
    if i = at_ then piece ++ substitute char (i + 1) cs rest
    else char c :: substitute char (i + 1) cs ((at_, piece) :: rest)

namespace Quoting

/-- The text with the next piece in the place of every placeholder, as long as there are pieces. -/
def fill (char : Char → α) : (s : Quoting) → List Char → (pieces : List (List α)) → List α
  | _, [], _ => []
  | _, c :: cs, [] => (c :: cs).map char
  | s, c :: cs, p :: ps =>
    if s.Meets c then p ++ (s.step c).fill char cs ps
    else char c :: (s.step c).fill char cs (p :: ps)

variable (char : Char → α)

@[simp] theorem fill_nil (s : Quoting) (ps : List (List α)) : s.fill char [] ps = [] := by
  cases ps <;> rfl

@[simp] theorem fill_no_pieces (s : Quoting) (cs : List Char) :
    s.fill char cs [] = cs.map char := by
  cases cs <;> rfl

theorem fill_cons (s : Quoting) (c : Char) (cs : List Char) (p : List α) (ps : List (List α)) :
    s.fill char (c :: cs) (p :: ps) =
      if s.Meets c then p ++ (s.step c).fill char cs ps
      else char c :: (s.step c).fill char cs (p :: ps) := rfl

theorem fill_cons_of_not_meets {s : Quoting} {c : Char} (h : ¬ s.Meets c) (cs : List Char)
    (ps : List (List α)) :
    s.fill char (c :: cs) ps = char c :: (s.step c).fill char cs ps := by
  cases ps with
  | nil => simp
  | cons p ps => rw [fill_cons, if_neg h]

theorem fill_append (s : Quoting) (cs ds : List Char) (ps qs : List (List α))
    (h : s.count cs = ps.length) :
    s.fill char (cs ++ ds) (ps ++ qs) = s.fill char cs ps ++ (s.run cs).fill char ds qs := by
  induction cs generalizing s ps with
  | nil =>
    obtain rfl := List.eq_nil_of_length_eq_zero h.symm
    simp
  | cons c cs ih =>
    rw [count_cons] at h
    by_cases hm : s.Meets c
    · rw [if_pos hm] at h
      cases ps with
      | nil => rw [List.length_nil] at h; omega
      | cons p ps =>
        rw [List.length_cons] at h
        rw [List.cons_append, List.cons_append, fill_cons, if_pos hm, fill_cons, if_pos hm,
          ih _ ps (by omega), List.append_assoc, run_cons]
    · rw [if_neg hm, Nat.zero_add] at h
      rw [List.cons_append, fill_cons_of_not_meets char hm, fill_cons_of_not_meets char hm,
        ih _ ps h, List.cons_append, run_cons]

theorem fill_append_of_binds {cs : List Char} {ps : List (List α)} (h : Binds cs ps.length)
    (ds : List Char) (qs : List (List α)) :
    outside.fill char (cs ++ ds) (ps ++ qs) =
      outside.fill char cs ps ++ outside.fill char ds qs := by
  rw [fill_append char outside cs ds ps qs h.count_eq, h.run_eq]

/-- A text without placeholders takes no pieces. -/
theorem fill_of_count_eq_zero {s : Quoting} {cs : List Char} (h : s.count cs = 0)
    (ps : List (List α)) : s.fill char cs ps = cs.map char := by
  induction cs generalizing s with
  | nil => simp
  | cons c cs ih =>
    rw [count_cons] at h
    have hm : ¬ s.Meets c := fun hm => by rw [if_pos hm] at h; omega
    rw [fill_cons_of_not_meets char hm, ih (by omega), List.map_cons]

/-- Pieces at the offsets of the placeholders stand where a reader meets the placeholders. -/
theorem substitute_zip_offsets (s : Quoting) (i : Nat) (cs : List Char) (ps : List (List α)) :
    substitute char i cs ((s.offsets i cs).zip ps) = s.fill char cs ps := by
  induction cs generalizing s i ps with
  | nil => simp [substitute]
  | cons c cs ih =>
    cases ps with
    | nil => simp [substitute]
    | cons p ps =>
      by_cases hm : s.Meets c
      · rw [offsets_cons, if_pos hm, List.zip_cons_cons, substitute, if_pos rfl, ih, fill_cons,
          if_pos hm]
      · rw [offsets_cons, if_neg hm, fill_cons, if_neg hm, ← ih (s.step c) (i + 1)]
        cases ho : (s.step c).offsets (i + 1) cs with
        | nil => cases cs <;> simp [substitute]
        | cons n ns =>
          have hn : i + 1 ≤ n := le_of_mem_offsets (ho ▸ List.mem_cons_self)
          rw [List.zip_cons_cons, substitute, if_neg (by omega)]

end Quoting

end Generic

end RowQuery.Sql

namespace RowQuery

/-- What stands at one place of a text with values in it. -/
inductive Symbol
  | char (c : Char)
  | value (v : Value)

/-- The text with the values in the places of its placeholders, in order. -/
def BoundSql.filled (b : BoundSql) : List Symbol :=
  Sql.substitute .char 0 b.sql.toList
    ((Sql.placeholders b.sql).zip (b.args.map fun v => [Symbol.value v]))

theorem BoundSql.filled_eq_fill (b : BoundSql) :
    b.filled = Sql.Quoting.outside.fill .char b.sql.toList (b.args.map fun v => [.value v]) := by
  rw [filled, Sql.placeholders_eq_offsets, Sql.Quoting.substitute_zip_offsets]

namespace Condition

open Sql Quoting

/-- A value in the place of its placeholder; a sequence is shown in parentheses. -/
def shown (v : Value) : List Symbol :=
  match v.items? with
  | some vs => .char '(' :: List.intercalate [.char ','] (vs.map fun v => [.value v]) ++ [.char ')']
  | none => [.value v]

/-- The placeholders of a value. -/
def marksOf (v : Value) : List Char :=
  match v.items? with
  | some vs => marks vs.length
  | none => ['?']

/-! ### One value -/

theorem intercalate_marks_succ (n : Nat) :
    List.intercalate [','] (List.replicate (n + 2) ['?']) =
      ['?', ','] ++ List.intercalate [','] (List.replicate (n + 1) ['?']) := by
  rw [List.replicate_succ, List.intercalate_cons_of_ne_nil (by simp)]
  rfl

theorem intercalate_marks_binds :
    ∀ n, Binds (List.intercalate [','] (List.replicate n ['?'])) n
  | 0 => Binds.nil
  | 1 => ⟨rfl, rfl⟩
  | n + 2 => by
    have hm : Binds ['?', ','] 1 := ⟨rfl, rfl⟩
    have h := hm.append (intercalate_marks_binds (n + 1))
    rwa [← intercalate_marks_succ, show 1 + (n + 1) = n + 2 by omega] at h

theorem marks_binds (n : Nat) : Binds (marks n) n := by
  have hl : Binds ['('] 0 := ⟨rfl, rfl⟩
  have hr : Binds [')'] 0 := ⟨rfl, rfl⟩
  exact hl.between (intercalate_marks_binds n) hr

theorem marksOf_binds (v : Value) : Binds (marksOf v) (bound v).length := by
  unfold marksOf bound
  cases v.items? with
  | none => exact ⟨rfl, rfl⟩
  | some vs => exact marks_binds vs.length

theorem fill_intercalate_marks : ∀ vs : List Value,
    outside.fill .char (List.intercalate [','] (List.replicate vs.length ['?']))
        (vs.map fun v => [.value v]) =
      List.intercalate [Symbol.char ','] (vs.map fun v => [.value v])
  | [] => rfl
  | [_] => rfl
  | v :: w :: vs => by
    have hm : Binds ['?', ','] [[Symbol.value v]].length := ⟨rfl, rfl⟩
    have hv : outside.fill Symbol.char ['?', ','] [[.value v]] = [.value v, .char ','] := rfl
    calc
      _ = outside.fill .char
            (['?', ','] ++ List.intercalate [','] (List.replicate (w :: vs).length ['?']))
            ([[Symbol.value v]] ++ (w :: vs).map fun v => [.value v]) := by
        rw [List.length_cons, List.length_cons, intercalate_marks_succ]
        rfl
      _ = [.value v, .char ','] ++
            List.intercalate [.char ','] ((w :: vs).map fun v => [.value v]) := by
        rw [fill_append_of_binds _ hm, hv, fill_intercalate_marks (w :: vs)]
      _ = _ := by
        rw [List.map_cons, List.map_cons, List.map_cons, List.intercalate_cons_cons]
        rfl

/-- The values in the places of their own marks. -/
theorem fill_marksOf (v : Value) :
    outside.fill .char (marksOf v) ((bound v).map fun u => [.value u]) = shown v := by
  unfold marksOf bound shown
  cases v.items? with
  | none => rfl
  | some vs =>
    have hl : Binds ['('] ([] : List (List Symbol)).length := ⟨rfl, rfl⟩
    have hb : Binds (List.intercalate [','] (List.replicate vs.length ['?']))
        (vs.map fun u => [Symbol.value u]).length := by
      rw [List.length_map]
      exact intercalate_marks_binds vs.length
    calc
      _ = outside.fill .char
            (['('] ++ (List.intercalate [','] (List.replicate vs.length ['?']) ++ [')']))
            ([] ++ ((vs.map fun u => [Symbol.value u]) ++ [])) := by
        rw [List.append_nil, List.nil_append]
        rfl
      _ = _ := by
        rw [fill_append_of_binds _ hl, fill_append_of_binds _ hb, fill_intercalate_marks]
        rfl

/-! ### All values of a leaf -/

/-- Spreading puts the marks of every value in the place of its placeholder. -/
theorem spread_eq_fill (text cs : List Char) (s : Quoting) (i last : Nat) (args : List Value)
    (hi : text.drop i = cs) (hl : last ≤ i) :
    spread text last ((s.offsets i cs).zip args) =
      (text.take i).drop last ++ s.fill id cs (args.map marksOf) := by
  induction cs generalizing s i last args with
  | nil =>
    have ht : text.take i = text := List.take_of_length_le (List.drop_eq_nil_iff.mp hi)
    simp [spread, ht]
  | cons c cs ih =>
    have hlen : i < text.length := by
      by_contra h
      simp [List.drop_eq_nil_iff.mpr (Nat.le_of_not_lt h)] at hi
    have hnext : text.drop (i + 1) = cs := by
      rw [← List.tail_drop, hi, List.tail_cons]
    have htake : (text.take (i + 1)).drop last = (text.take i).drop last ++ [c] := by
      have hc : text[i] = c := by
        rw [List.drop_eq_getElem_cons hlen] at hi
        exact (List.cons.inj hi).1
      rw [List.take_succ_eq_append_getElem hlen, hc, List.drop_append_of_le_length (by simp; omega)]
    by_cases hm : s.Meets c
    · cases args with
      | nil =>
        have hcs : text.drop last = (text.take i).drop last ++ (c :: cs) := by
          rw [← hi, ← List.drop_append_of_le_length (by simp; omega), List.take_append_drop]
        simp [spread, hcs]
      | cons v args =>
        rw [offsets_cons, if_pos hm, List.zip_cons_cons, List.map_cons, fill_cons, if_pos hm,
          spread, marksOf]
        cases v.items? with
        | some items =>
          simp only
          rw [ih _ (i + 1) (i + 1) args hnext (Nat.le_refl _)]
          simp
        | none =>
          simp only
          rw [ih _ (i + 1) last args hnext (by omega), htake, hm.2]
          simp
    · rw [offsets_cons, if_neg hm, ih _ (i + 1) last args hnext (by omega), htake,
        fill_cons_of_not_meets id hm]
      simp

theorem toList_renderLeaf (sql : String) (args : List Value) :
    (renderLeaf sql args).sql.toList = outside.fill id sql.toList (args.map marksOf) := by
  rw [renderLeaf, String.toList_ofList, placeholders_eq_offsets,
    spread_eq_fill sql.toList sql.toList outside 0 0 args rfl (Nat.le_refl 0)]
  simp

/-- Marks leave the reader where a single placeholder does. -/
theorem run_fill_marks (s : Quoting) (cs : List Char) (args : List Value) :
    s.run (s.fill id cs (args.map marksOf)) = s.run cs := by
  induction cs generalizing s args with
  | nil => simp
  | cons c cs ih =>
    by_cases hm : s.Meets c
    · cases args with
      | nil => simp
      | cons v args =>
        rw [List.map_cons, fill_cons, if_pos hm, run_append, run_cons, hm.step_eq, hm.1,
          (marksOf_binds v).run_eq, ih]
    · rw [fill_cons_of_not_meets id hm, run_cons, run_cons, id, ih]

theorem count_fill_marks (s : Quoting) (cs : List Char) (args : List Value)
    (h : s.count cs = args.length) :
    s.count (s.fill id cs (args.map marksOf)) = (args.flatMap bound).length := by
  induction cs generalizing s args with
  | nil =>
    obtain rfl := List.eq_nil_of_length_eq_zero h.symm
    rfl
  | cons c cs ih =>
    rw [count_cons] at h
    by_cases hm : s.Meets c
    · rw [if_pos hm] at h
      cases args with
      | nil => rw [List.length_nil] at h; omega
      | cons v args =>
        rw [List.length_cons] at h
        rw [hm.step_eq] at h
        rw [List.map_cons, fill_cons, if_pos hm, hm.step_eq, hm.1, count_append,
          (marksOf_binds v).run_eq, (marksOf_binds v).count_eq, ih _ args (by omega),
          List.flatMap_cons, List.length_append]
    · rw [if_neg hm, Nat.zero_add] at h
      rw [fill_cons_of_not_meets id hm, count_cons, id, if_neg hm, Nat.zero_add, ih _ args h]

/-- The bound values in the places of all marks show the values as they were given. -/
theorem fill_fill_marks (s : Quoting) (cs : List Char) (args : List Value)
    (h : s.count cs = args.length) :
    s.fill .char (s.fill id cs (args.map marksOf))
        ((args.flatMap bound).map fun u => [Symbol.value u]) =
      s.fill .char cs (args.map shown) := by
  induction cs generalizing s args with
  | nil => simp
  | cons c cs ih =>
    rw [count_cons] at h
    by_cases hm : s.Meets c
    · rw [if_pos hm] at h
      cases args with
      | nil => rw [List.length_nil] at h; omega
      | cons v args =>
        have hb : Binds (marksOf v) ((bound v).map fun u => [Symbol.value u]).length := by
          rw [List.length_map]
          exact marksOf_binds v
        rw [List.length_cons, hm.step_eq] at h
        rw [List.map_cons, List.map_cons, fill_cons, if_pos hm, fill_cons, if_pos hm, hm.step_eq,
          hm.1, List.flatMap_cons, List.map_append, fill_append_of_binds _ hb, fill_marksOf,
          ih _ args (by omega)]
    · rw [if_neg hm, Nat.zero_add] at h
      rw [fill_cons_of_not_meets id hm, id_eq, fill_cons_of_not_meets _ hm,
        fill_cons_of_not_meets _ hm, ih _ args h]

end Condition

end RowQuery
