import RowQuery.Sql.Placeholder
import Mathlib.Data.List.Basic

/-! Placeholders as a reader of one character at a time meets them. The offsets of a text are those
of its first part followed by those of the second one, read from where the first part leaves the
reader. Closed texts leave the reader outside of quotes, so each binds what it binds alone. -/

namespace RowQuery.Sql

namespace Quoting

/-- The reader stands outside of quotes and in front of a question mark. -/
def Meets (s : Quoting) (c : Char) : Prop := s = .outside ∧ c = '?'

instance (s : Quoting) (c : Char) : Decidable (s.Meets c) := inferInstanceAs (Decidable (_ ∧ _))

/-- The offsets of the placeholders in a text that begins at offset `i`. -/
def offsets : (s : Quoting) → (i : Nat) → List Char → List Nat
  | _, _, [] => []
  | s, i, c :: cs =>
    if s.Meets c then i :: (s.step c).offsets (i + 1) cs else (s.step c).offsets (i + 1) cs

/-- The number of placeholders in a text. -/
def count : (s : Quoting) → List Char → Nat
  | _, [] => 0
  | s, c :: cs => (if s.Meets c then 1 else 0) + (s.step c).count cs

@[simp] theorem offsets_nil (s : Quoting) (i : Nat) : s.offsets i [] = [] := rfl

theorem offsets_cons (s : Quoting) (i : Nat) (c : Char) (cs : List Char) :
    s.offsets i (c :: cs) =
      if s.Meets c then i :: (s.step c).offsets (i + 1) cs else (s.step c).offsets (i + 1) cs := rfl

theorem count_cons (s : Quoting) (c : Char) (cs : List Char) :
    s.count (c :: cs) = (if s.Meets c then 1 else 0) + (s.step c).count cs := rfl

theorem offsets_inside (q : Char) (i : Nat) (c : Char) (cs : List Char) :
    (inside q).offsets i (c :: cs) = ((inside q).step c).offsets (i + 1) cs :=
  if_neg fun h => nomatch h.1

theorem offsets_escaped (q : Char) (i : Nat) (c : Char) (cs : List Char) :
    (escaped q).offsets i (c :: cs) = (inside q).offsets (i + 1) cs :=
  if_neg fun h => nomatch h.1

/-- A question mark is no quote. -/
theorem Meets.step_eq {s : Quoting} {c : Char} (h : s.Meets c) : s.step c = .outside := by
  obtain ⟨rfl, rfl⟩ := h
  rfl

@[simp] theorem length_offsets (s : Quoting) (i : Nat) (cs : List Char) :
    (s.offsets i cs).length = s.count cs := by
  induction cs generalizing s i with
  | nil => rfl
  | cons c cs ih =>
    rw [offsets_cons, count_cons]
    split_ifs
    · rw [List.length_cons, ih, Nat.add_comm]
    · rw [ih, Nat.zero_add]

theorem offsets_append (s : Quoting) (i : Nat) (cs ds : List Char) :
    s.offsets i (cs ++ ds) = s.offsets i cs ++ (s.run cs).offsets (i + cs.length) ds := by
  induction cs generalizing s i with
  | nil => rfl
  | cons c cs ih =>
    rw [List.cons_append, offsets_cons, offsets_cons, ih, run_cons, List.length_cons,
      Nat.add_right_comm, Nat.add_assoc]
    split_ifs <;> rfl

theorem count_append (s : Quoting) (cs ds : List Char) :
    s.count (cs ++ ds) = s.count cs + (s.run cs).count ds := by
  rw [← length_offsets s 0, offsets_append, List.length_append, length_offsets, length_offsets]

/-- Offsets count from the beginning of the text. -/
theorem offsets_eq_map (s : Quoting) (i : Nat) (cs : List Char) :
    s.offsets i cs = (s.offsets 0 cs).map (i + ·) := by
  suffices h : ∀ j, s.offsets (i + j) cs = (s.offsets j cs).map (i + ·) by simpa using h 0
  intro j
  induction cs generalizing s j with
  | nil => rfl
  | cons c cs ih =>
    rw [offsets_cons, offsets_cons, Nat.add_assoc, ih]
    split_ifs <;> rfl

theorem le_of_mem_offsets {s : Quoting} {i n : Nat} {cs : List Char} (h : n ∈ s.offsets i cs) :
    i ≤ n := by
  rw [offsets_eq_map, List.mem_map] at h
  obtain ⟨m, -, rfl⟩ := h
  exact Nat.le_add_right i m

/-- Offsets are met in increasing order. -/
theorem pairwise_offsets (s : Quoting) (i : Nat) (cs : List Char) :
    (s.offsets i cs).Pairwise (· < ·) := by
  induction cs generalizing s i with
  | nil => exact .nil
  | cons c cs ih =>
    rw [offsets_cons]
    split_ifs
    · exact .cons (fun n hn => le_of_mem_offsets hn) (ih _ _)
    · exact ih _ _

/-- The offsets are those of the question marks that the text before leaves outside of quotes. -/
theorem mem_offsets_iff {s : Quoting} {i n : Nat} {cs : List Char} :
    n ∈ s.offsets i cs ↔ ∃ k, n = i + k ∧ cs[k]? = some '?' ∧ s.run (cs.take k) = .outside := by
  induction cs generalizing s i with
  | nil => simp
  | cons c cs ih =>
    have hmem : n ∈ s.offsets i (c :: cs) ↔
        (n = i ∧ s.Meets c) ∨ n ∈ (s.step c).offsets (i + 1) cs := by
      rw [offsets_cons]
      split_ifs with hm <;> simp [hm]
    rw [hmem, ih]
    constructor
    · rintro (⟨rfl, rfl, rfl⟩ | ⟨k, rfl, hk, hrun⟩)
      · exact ⟨0, rfl, rfl, rfl⟩
      · exact ⟨k + 1, by omega, hk, hrun⟩
    · rintro ⟨_ | k, rfl, hk, hrun⟩
      · exact .inl ⟨rfl, hrun, Option.some.inj hk⟩
      · exact .inr ⟨k, by omega, hk, hrun⟩

/-- The reader that begins inside of a quote, or outside of all of them. -/
def ofQuote : Option Char → Quoting
  | none => .outside
  | some q => .inside q

end Quoting

theorem isQuote_iff {c : Char} : isQuote c = true ↔ c = '\x27' ∨ c = '\x22' ∨ c = backtick := by
  simp [isQuote, or_assoc]

/-- A doubled quote needs no rule of its own: the first one leaves the segment and the second one
enters it again. -/
theorem placeholdersFrom_eq_offsets (quote : Option Char) (hq : ∀ q ∈ quote, isQuote q = true)
    (i : Nat) (cs : List Char) :
    placeholdersFrom quote i cs = (Quoting.ofQuote quote).offsets i cs := by
  fun_induction placeholdersFrom quote i cs with
  | case1 quote i => rfl
  | case2 i c cs hc ih =>
    have hm : ¬ Quoting.outside.Meets c := by
      rintro ⟨-, rfl⟩
      revert hc
      decide
    rw [ih (by simpa using hc), Quoting.ofQuote, Quoting.offsets_cons, if_neg hm, Quoting.step,
      if_pos hc]
    rfl
  | case3 i cs hc ih =>
    rw [ih hq, Quoting.ofQuote, Quoting.offsets_cons, if_pos ⟨rfl, rfl⟩]
    rfl
  | case4 i c cs hc hm ih =>
    rw [ih hq, Quoting.ofQuote, Quoting.offsets_cons, if_neg (fun h => hm h.2), Quoting.step,
      if_neg hc]
  | case5 q i c hb =>
    rw [Quoting.ofQuote, Quoting.offsets_inside, Quoting.offsets_nil]
  | case6 q i c hb d rest ih =>
    rw [ih hq, Quoting.ofQuote, Quoting.offsets_inside, Quoting.step, if_pos hb,
      Quoting.offsets_escaped]
  | case7 i q hb =>
    rw [Quoting.ofQuote, Quoting.offsets_inside, Quoting.offsets_nil]
  | case8 i q rest hb ih =>
    have hs : Quoting.outside.step q = .inside q := if_pos (hq q rfl)
    have hm : ¬ Quoting.outside.Meets q := by
      rintro ⟨-, rfl⟩
      exact absurd (hq _ rfl) (by decide)
    rw [ih hq, Quoting.ofQuote, Quoting.offsets_inside, Quoting.step, if_neg hb, if_pos rfl,
      Quoting.offsets_cons, if_neg hm, hs]
  | case9 i q d rest hb hd ih =>
    rw [ih (by simp), Quoting.ofQuote, Quoting.ofQuote, Quoting.offsets_inside, Quoting.step,
      if_neg hb, if_pos rfl]
  | case10 q i c cs hb hc ih =>
    rw [ih hq, Quoting.ofQuote, Quoting.offsets_inside, Quoting.step, if_neg hb, if_neg hc]

theorem placeholders_eq_offsets (sql : String) :
    placeholders sql = Quoting.outside.offsets 0 sql.toList :=
  placeholdersFrom_eq_offsets none (by simp) 0 sql.toList

/-- A text is read one character at a time and without looking ahead: its placeholders are the
question marks in front of which the reader stands outside of quotes. So a text that leaves the
reader there does not change what a later one binds. -/
theorem placeholders_read_one_by_one :
    (∀ sql : String, (placeholders sql).Pairwise (· < ·) ∧ ∀ k, k ∈ placeholders sql ↔
      sql.toList[k]? = some '?' ∧ Quoting.outside.run (sql.toList.take k) = .outside) ∧
    ∀ a b : String, Quoting.outside.run a.toList = .outside →
      placeholders (a ++ b) = placeholders a ++ (placeholders b).map (a.length + ·) := by
  constructor
  · intro sql
    rw [placeholders_eq_offsets]
    refine ⟨Quoting.pairwise_offsets _ 0 _, fun k => ?_⟩
    rw [Quoting.mem_offsets_iff]
    simp
  · intro a b ha
    rw [placeholders_eq_offsets, placeholders_eq_offsets, placeholders_eq_offsets,
      String.toList_append, Quoting.offsets_append, ha, Quoting.offsets_eq_map _ (0 + _),
      String.length_toList, Nat.zero_add]

/-- Doubled quotes, an escaped one and question marks among them, before two placeholders. -/
theorem quotedMarks_read_one_by_one :
    Quoting.outside.run "a = 'it''s ?\\'' AND b = ? AND ".toList = .outside ∧
      placeholders ("a = 'it''s ?\\'' AND b = ? AND " ++ "c = \"?\" OR c = ?") = [24, 45] := by
  have ha : Quoting.outside.run "a = 'it''s ?\\'' AND b = ? AND ".toList = .outside := by
    decide +kernel
  have hcount : placeholders "a = 'it''s ?\\'' AND b = ? AND " = [24] := by decide +kernel
  have hrest : placeholders "c = \"?\" OR c = ?" = [15] := by decide +kernel
  refine ⟨ha, ?_⟩
  rw [placeholders_read_one_by_one.2 _ _ ha, hcount, hrest]
  decide +kernel

theorem length_placeholders (sql : String) :
    (placeholders sql).length = Quoting.outside.count sql.toList := by
  rw [placeholders_eq_offsets, Quoting.length_offsets]

/-- A text after which a reader is outside of quotes again. -/
def IsClosed (cs : List Char) : Prop := Quoting.outside.run cs = .outside

instance (cs : List Char) : Decidable (IsClosed cs) := inferInstanceAs (Decidable (_ = _))

/-- A closed text with `n` placeholders. -/
structure Binds (cs : List Char) (n : Nat) : Prop where
  run_eq : Quoting.outside.run cs = .outside
  count_eq : Quoting.outside.count cs = n

namespace Binds

instance (cs : List Char) (n : Nat) : Decidable (Binds cs n) :=
  decidable_of_iff (Quoting.outside.run cs = .outside ∧ Quoting.outside.count cs = n)
    ⟨fun h => ⟨h.1, h.2⟩, fun h => ⟨h.1, h.2⟩⟩

theorem nil : Binds [] 0 := ⟨rfl, rfl⟩

theorem append {cs ds : List Char} {m n : Nat} (hc : Binds cs m) (hd : Binds ds n) :
    Binds (cs ++ ds) (m + n) where
  run_eq := by rw [Quoting.run_append, hc.run_eq, hd.run_eq]
  count_eq := by rw [Quoting.count_append, hc.count_eq, hc.run_eq, hd.count_eq]

/-- Texts without placeholders may stand around any text. -/
theorem between {cs ds es : List Char} {n : Nat} (hc : Binds cs 0) (hd : Binds ds n)
    (he : Binds es 0) : Binds (cs ++ ds ++ es) n := by
  simpa using (hc.append hd).append he

/-- Characters that are no quotes and no question marks bind nothing. -/
theorem of_forall {cs : List Char} (h : ∀ c ∈ cs, isQuote c = false ∧ c ≠ '?') : Binds cs 0 := by
  induction cs with
  | nil => exact nil
  | cons c cs ih =>
    obtain ⟨hq, hm⟩ := h c List.mem_cons_self
    have hs : Quoting.outside.step c = .outside := if_neg (by simp [hq])
    have ht := ih fun d hd => h d (List.mem_cons_of_mem c hd)
    constructor
    · rw [Quoting.run_cons, hs, ht.run_eq]
    · rw [Quoting.count_cons, hs, ht.count_eq, if_neg fun hc => hm hc.2]

end Binds

end RowQuery.Sql
