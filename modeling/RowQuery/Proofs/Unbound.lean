import RowQuery.Proofs.Result
import RowQuery.Proofs.Scan
import RowQuery.Sql.Modifier
import RowQuery.Sql.Projection

/-! Texts that bind nothing: quoted identifiers whatever their names are, numbers, grouping and
ordering, and lists of columns whose expressions are closed and hold no placeholder. -/

namespace RowQuery

namespace Sql

open Quoting

/-! ### Identifiers -/

theorem inside_double (cs : List Char) :
    (inside backtick).run (double cs) = inside backtick ∧
      (inside backtick).count (double cs) = 0 := by
  induction cs with
  | nil => exact ⟨rfl, rfl⟩
  | cons c cs ih =>
    unfold double
    split_ifs with hc
    · -- the first of the two leaves the segment, the second one enters it again
      have hr : (inside backtick).run [backtick, backtick] = inside backtick := by decide
      have hn : (inside backtick).count [backtick, backtick] = 0 := by decide
      constructor
      · rw [show backtick :: backtick :: double cs = [backtick, backtick] ++ double cs from rfl,
          run_append, hr, ih.1]
      · rw [show backtick :: backtick :: double cs = [backtick, backtick] ++ double cs from rfl,
          count_append, hr, hn, ih.2]
    · have hm : ¬ (inside backtick).Meets c := by
        rintro ⟨h, -⟩
        contradiction
      have hs : (inside backtick).step c = inside backtick := by
        rw [step, if_neg (fun h => h.2 rfl), if_neg hc]
      constructor
      · rw [run_cons, hs, ih.1]
      · rw [count_cons, hs, ih.2, if_neg hm]

theorem toList_quote (name : String) :
    (quote name).toList = backtick :: (double name.toList ++ [backtick]) := by
  rw [quote, String.toList_ofList, quoteChars]

/-- A quoted identifier binds nothing, whatever stands in it. -/
theorem quote_binds (name : String) : Binds (quote name).toList 0 := by
  obtain ⟨hr, hc⟩ := inside_double name.toList
  have ho : outside.step backtick = inside backtick := by decide
  rw [toList_quote]
  constructor
  · rw [run_cons, ho, run_append, hr]
    decide
  · rw [count_cons, ho, count_append, hr, hc]
    decide

theorem join_cons_cons (sep s t : String) (ss : List String) :
    Text.join sep (s :: t :: ss) = s ++ sep ++ Text.join sep (t :: ss) := rfl

theorem join_binds {sep : String} (hsep : Binds sep.toList 0) :
    ∀ {ss : List String}, (∀ s ∈ ss, Binds s.toList 0) → Binds (Text.join sep ss).toList 0
  | [], _ => Binds.nil
  | [s], h => h s List.mem_cons_self
  | s :: t :: ss, h => by
    have ht := join_binds hsep fun u hu => h u (List.mem_cons_of_mem s hu)
    rw [join_cons_cons, String.toList_append, String.toList_append]
    exact ((h s List.mem_cons_self).append hsep).append ht

theorem quoteDotted_binds (name : String) : Binds (quoteDotted name).toList 0 := by
  refine join_binds (by decide) fun s hs => ?_
  obtain ⟨part, -, rfl⟩ := List.mem_map.mp hs
  exact quote_binds _

/-! ### Numbers, grouping and ordering -/

theorem digit_binds {c : Char} (h : c.isDigit = true) : isQuote c = false ∧ c ≠ '?' := by
  constructor
  · rw [Bool.eq_false_iff]
    intro hq
    rcases isQuote_iff.mp hq with rfl | rfl | rfl <;> revert h <;> decide
  · rintro rfl
    revert h
    decide

theorem nat_repr_binds (n : Nat) : Binds n.repr.toList 0 := by
  rw [Nat.toList_repr]
  exact Binds.of_forall fun c hc =>
    digit_binds (Nat.isDigit_of_mem_toDigits (by decide) (by decide) hc)

theorem toString_binds (n : Int) : Binds (toString n).toList 0 := by
  rw [Int.toString_eq_repr, Int.repr_eq_if]
  split_ifs
  · exact nat_repr_binds _
  · rw [String.toList_append]
    exact Binds.append (m := 0) (n := 0) (by decide) (nat_repr_binds _)

end Sql

open Sql

theorem Grouping.sql_binds {keyword : String} (h : Binds keyword.toList 0) (g : Grouping) :
    Binds (g.sql keyword).toList 0 := by
  have hj : Binds (Text.join ", " (g.map quoteDotted)).toList 0 := by
    refine join_binds (by decide) fun s hs => ?_
    obtain ⟨name, -, rfl⟩ := List.mem_map.mp hs
    exact quoteDotted_binds name
  have hb : Binds " ".toList 0 := by decide
  rw [Grouping.sql, String.toList_append, String.toList_append]
  exact (h.append hb).append hj

theorem Ordering.sql_binds {keyword : String} (h : Binds keyword.toList 0) (o : Ordering) :
    Binds (o.sql keyword).toList 0 := by
  have hb : Binds " ".toList 0 := by decide
  have hw : ∀ d : Direction, Binds d.word.toList 0 := by
    intro d
    cases d <;> decide
  have hj : Binds
      (Text.join ", " (o.map fun p => quoteDotted p.1 ++ " " ++ p.2.word)).toList 0 := by
    refine join_binds (by decide) fun s hs => ?_
    obtain ⟨p, -, rfl⟩ := List.mem_map.mp hs
    rw [String.toList_append, String.toList_append]
    exact ((quoteDotted_binds p.1).append hb).append (hw p.2)
  rw [Ordering.sql, String.toList_append, String.toList_append]
  exact (h.append hb).append hj

namespace Sql

/-! ### Columns -/

/-- The columns and expressions a value requests. -/
def requested : Value → List Value
  | .text s => [.text s]
  | .list items => items
  | .tuple items => items
  | .map entries => entries.map (·.2)
  | _ => []

/-- An expression without placeholders that leaves no quote open. -/
def IsUnbound (s : String) : Prop := placeholders s = [] ∧ IsClosed s.toList

/-- All expressions among the requested columns are unbound; names of columns are quoted anyway. -/
def RequestsUnbound (columns : Value) : Prop :=
  ∀ s, Value.text s ∈ requested columns → isPlain (Text.trim s) = false → IsUnbound (Text.trim s)

theorem IsUnbound.binds {s : String} (h : IsUnbound s) : Binds s.toList 0 :=
  ⟨h.2, by rw [← length_placeholders, h.1, List.length_nil]⟩

theorem projectionItem_binds {v : Value} {item : String} (h : projectionItem v = .ok item)
    (hu : ∀ s, v = .text s → isPlain (Text.trim s) = false → IsUnbound (Text.trim s)) :
    Binds item.toList 0 := by
  unfold projectionItem at h
  split at h
  · rename_i s
    simp only at h
    split_ifs at h with he hs hp
    · obtain rfl := Except.ok.inj h
      rw [hs]
      decide
    · obtain rfl := Except.ok.inj h
      exact quote_binds _
    · obtain rfl := Except.ok.inj h
      have hi := (hu s rfl (Bool.eq_false_iff.mpr hp)).binds
      have hl : Binds "( ".toList 0 := by decide
      have hr : Binds " )".toList 0 := by decide
      rw [String.toList_append, String.toList_append]
      exact hl.between hi hr
  · contradiction

theorem aliasedItem_binds {name v : Value} {item : String} (h : aliasedItem name v = .ok item)
    (hu : ∀ s, v = .text s → isPlain (Text.trim s) = false → IsUnbound (Text.trim s)) :
    Binds item.toList 0 := by
  obtain ⟨column, hc, h⟩ := Result.bind_eq_ok.mp h
  have hb := projectionItem_binds hc hu
  split at h
  · obtain rfl := Except.ok.inj h
    exact hb
  · split_ifs at h
    obtain rfl := Except.ok.inj h
    have hs : Binds " AS ".toList 0 := by decide
    rw [String.toList_append, String.toList_append]
    exact (hb.append hs).append (quote_binds _)
  · contradiction

theorem projectionOf_binds {items : List String} (h : ∀ s ∈ items, Binds s.toList 0) :
    Binds (projectionOf items).toList 0 := by
  unfold projectionOf
  split_ifs
  · decide
  · exact join_binds (by decide) h

/-- What is selected binds nothing when its expressions bind nothing. -/
theorem projection_binds {columns : Value} {items : String} (h : projection columns = .ok items)
    (hu : RequestsUnbound columns) : Binds items.toList 0 := by
  have hlist : ∀ vs : List Value, requested columns = vs →
      (vs.mapM projectionItem).map projectionOf = .ok items → Binds items.toList 0 := by
    intro vs hvs h
    obtain ⟨ts, hts, rfl⟩ := Result.map_eq_ok.mp h
    refine projectionOf_binds fun t ht => ?_
    obtain ⟨v, hv, hi⟩ := Result.exists_of_mem_mapM hts ht
    exact projectionItem_binds hi fun u hs => hu u (hvs ▸ hs ▸ hv)
  unfold projection at h
  split at h
  · obtain rfl := Except.ok.inj h
    decide
  · obtain ⟨item, hi, rfl⟩ := Result.map_eq_ok.mp h
    refine projectionOf_binds fun t ht => ?_
    obtain rfl := List.mem_singleton.mp ht
    exact projectionItem_binds hi fun u hs => hu u (by simp [requested, hs])
  · obtain ⟨ts, hts, rfl⟩ := Result.map_eq_ok.mp h
    refine projectionOf_binds fun t ht => ?_
    obtain ⟨e, he, hi⟩ := Result.exists_of_mem_mapM hts ht
    exact aliasedItem_binds hi fun u hs => hu u (List.mem_map.mpr ⟨e, he, hs⟩)
  · exact hlist _ rfl h
  · exact hlist _ rfl h
  · contradiction

end Sql

end RowQuery
