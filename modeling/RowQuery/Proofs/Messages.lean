import RowQuery.Proofs.Reading
import RowQuery.Query.Configuration
import RowQuery.Sql.Projection
import Mathlib.Algebra.Group.Nat.Defs

/-! Messages of refused arguments. A message shows the value it is about, and a value that holds an
integer of too many digits cannot be shown: the refusal is then the fault of the attempt. What a
reader shows is part of what it was given, so what it refuses is told whenever its argument can be
written. -/

namespace RowQuery

namespace ArgumentError

variable {e : ArgumentError}

theorem toError_of_isWritable (h : e.isWritable = true) : e.toError = .argument e := if_pos h

theorem toError_of_not_isWritable (h : ¬ e.isWritable = true) : e.toError = .fault .value :=
  if_neg h

theorem toError_cases (e : ArgumentError) : e.toError = .argument e ∨ e.toError = .fault .value := by
  by_cases h : e.isWritable = true
  · exact .inl (toError_of_isWritable h)
  · exact .inr (toError_of_not_isWritable h)

end ArgumentError

/-! ### Values that can be written -/

namespace Value

theorem isWritable_int {n : Int} :
    (int n).isWritable = true ↔ n.natAbs < 10 ^ Text.maxDigits := by
  rw [isWritable, decide_eq_true_eq, Nat.pow_eq]

theorem allWritable_iff {vs : List Value} :
    allWritable vs = true ↔ ∀ v ∈ vs, v.isWritable = true := by
  induction vs with
  | nil => simp [allWritable]
  | cons v vs ih => rw [allWritable, Bool.and_eq_true, ih, List.forall_mem_cons]

theorem allEntriesWritable_iff {entries : List (Value × Value)} :
    allEntriesWritable entries = true ↔
      ∀ e ∈ entries, e.1.isWritable = true ∧ e.2.isWritable = true := by
  induction entries with
  | nil => simp [allEntriesWritable]
  | cons e es ih =>
    rw [allEntriesWritable, Bool.and_eq_true, Bool.and_eq_true, ih, List.forall_mem_cons]

theorem isWritable_part {v u : Value} (h : v.isWritable = true) (hu : u ∈ v.parts) :
    u.isWritable = true := by
  cases v with
  | list items | tuple items | set items => exact allWritable_iff.mp h u hu
  | map entries =>
    have hentries := allEntriesWritable_iff.mp h
    rcases List.mem_append.mp hu with hu | hu
    · obtain ⟨e, he, rfl⟩ := List.mem_map.mp hu
      exact (hentries e he).1
    · obtain ⟨e, he, rfl⟩ := List.mem_map.mp hu
      exact (hentries e he).2
  | _ => exact absurd hu List.not_mem_nil

end Value

/-! ### Readers -/

/-- Whatever this refuses, the message can be written. -/
def Tells {α : Type} (x : Except ArgumentError α) : Prop :=
  Result.Fails (fun e => e.isWritable = true) x

namespace Tells

variable {α : Type} {x : Except ArgumentError α}

/-- A refusal that is told is the error of the argument. -/
theorem mapError (h : Tells x) : x.mapError ArgumentError.toError = x.mapError .argument := by
  cases x with
  | ok a => rfl
  | error e => exact congrArg Except.error (ArgumentError.toError_of_isWritable (h e rfl))

/-- A message shows one value at most. -/
theorem error_showing {e : ArgumentError} {v : Value} (he : e.shown = [v])
    (h : v.isWritable = true) : Tells (.error e : Except ArgumentError α) :=
  .error (by rw [ArgumentError.isWritable, he, Value.allWritable, h]; rfl)

end Tells

variable {v : Value}

namespace Condition

theorem tells_ofText (sql : String) (args : List Value) : Tells (ofText sql args) := by
  unfold ofText
  dsimp only
  split_ifs
  · exact .error rfl
  · exact .error rfl
  · exact .ok _

theorem tells_readNamed {name node : Value}
    {otherwise : Except ArgumentError (Combinator × Condition)} (hnode : Tells (read node))
    (ho : Tells otherwise) : Tells (readNamed name node otherwise) := by
  unfold readNamed
  split
  · exact hnode.map _
  · exact ho

/-- A child shows the name of its combinator or what its condition shows. -/
theorem tells_readChild {item : Value} (hw : item.isWritable = true) (hitem : Tells (read item))
    (hparts : ∀ u ∈ item.parts, Tells (read u)) : Tells (readChild item) := by
  have hwhole : Tells (readWhole item) := hitem.map _
  unfold readChild
  split
  · rename_i name node
    have hname : name.isWritable = true := Value.isWritable_part hw (by simp [Value.parts])
    exact tells_readNamed (hparts node (by simp [Value.parts])) (.error_showing rfl hname)
  · exact .error rfl
  · exact tells_readNamed (hparts _ (by simp [Value.parts])) hwhole
  · exact tells_readNamed (hparts _ (by simp [Value.parts])) hwhole
  · exact hwhole

theorem tells_readChildren {items : List Value} (hw : ∀ item ∈ items, item.isWritable = true)
    (h : ∀ item ∈ items, Tells (read item) ∧ ∀ u ∈ item.parts, Tells (read u)) :
    Tells (readChildren items) := by
  induction items with
  | nil =>
    rw [readChildren]
    exact .ok _
  | cons item items ih =>
    obtain ⟨hitem, hitems⟩ := List.forall_mem_cons.mp h
    obtain ⟨hfirst, hrest⟩ := List.forall_mem_cons.mp hw
    rw [readChildren_cons]
    exact (tells_readChild hfirst hitem.1 hitem.2).bind fun _ =>
      (ih hrest hitems).bind fun _ => .ok _

theorem tells_ofItems {items : List Value}
    {children : Except ArgumentError (List (Combinator × Condition))} (h : Tells children) :
    Tells (ofItems items children) := by
  unfold ofItems
  split
  · exact .error rfl
  · exact tells_ofText _ _
  · exact h.map _

theorem tells_read (h : v.isWritable = true) : Tells (read v) := by
  -- a child may stand two levels inside its group, so the parts are carried along
  suffices hs : Tells (read v) ∧ ∀ u ∈ v.parts, Tells (read u) from hs.1
  induction v using Value.parts_induction with
  | step v ih =>
    have hparts : ∀ u ∈ v.parts, u.isWritable = true := fun u hu => Value.isWritable_part h hu
    have hread := fun u hu => ih u hu (hparts u hu)
    refine ⟨?_, fun u hu => (hread u hu).1⟩
    unfold read
    split
    · exact .ok _
    · exact .ok _
    · exact tells_ofText _ _
    · exact tells_ofItems (tells_readChildren hparts hread)
    · exact tells_ofItems (tells_readChildren hparts hread)
    · exact .error_showing rfl h

theorem tells_ofArguments (h : v.isWritable = true) (args : List Value) :
    Tells (ofArguments v args) := by
  unfold ofArguments
  split
  · split_ifs
    · exact .ok _
    · exact .error rfl
  · split_ifs
    · exact .ok _
    · exact (tells_ofText _ _).map _
  · split_ifs
    · exact .error rfl
    · split
      · exact .ok _
      · exact .ok _
      · exact .ok _
      · exact .ok _
      · exact (tells_read h).map _
      · exact (tells_read h).map _
      · exact .error rfl

end Condition

theorem tells_readColumn (h : v.isWritable = true) : Tells (readColumn v) := by
  unfold readColumn
  split
  · dsimp only
    split_ifs
    · exact .error rfl
    · exact .ok _
  · exact .error_showing rfl h

theorem Grouping.tells_read (h : v.isWritable = true) : Tells (read v) := by
  have hparts : ∀ u ∈ v.parts, Tells (readColumn u) :=
    fun u hu => tells_readColumn (Value.isWritable_part h hu)
  unfold read
  split
  · exact .ok _
  · split_ifs
    · exact .ok _
    · exact (tells_readColumn h).map _
  · exact .ok _
  · exact .ok _
  · exact (Result.Fails.mapM hparts).map _
  · exact (Result.Fails.mapM hparts).map _
  · exact .error rfl

namespace Ordering

theorem tells_readItem (h : v.isWritable = true) : Tells (readItem v) := by
  unfold readItem
  split
  · exact (tells_readColumn h).map _
  · exact (tells_readColumn (Value.isWritable_part h (by simp [Value.parts]))).map _
  · exact (tells_readColumn (Value.isWritable_part h (by simp [Value.parts]))).map _
  · exact .error_showing rfl h

theorem tells_read (h : v.isWritable = true) (direction : Value) : Tells (read v direction) := by
  have hparts : ∀ u ∈ v.parts, Tells (readItem u) :=
    fun u hu => tells_readItem (Value.isWritable_part h hu)
  unfold read
  split
  · exact .ok _
  · split_ifs
    · exact .ok _
    · exact ((tells_readColumn h).map _).map _
  · exact .ok _
  · exact .ok _
  · exact .ok _
  · rename_i entries _
    have hentries := Value.allEntriesWritable_iff.mp h
    have hpairs : ∀ e ∈ entries, Tells (readPair e.1 e.2) :=
      fun e he => (tells_readColumn (hentries e he).1).map _
    exact (Result.Fails.mapM hpairs).map _
  · exact (Result.Fails.mapM hparts).map _
  · exact (Result.Fails.mapM hparts).map _
  · exact .error rfl

end Ordering

/-- A number of rows is refused only when it is no integer. -/
theorem Options.tells_readCount (h : (∃ n, v = .int n) ∨ v.isWritable = true) (what : String) :
    Tells (readCount what v) := by
  unfold readCount
  split
  · exact .ok _
  · exact .ok _
  · rename_i hint
    have hw : v.isWritable = true := h.resolve_left fun ⟨n, hn⟩ => hint n hn
    exact .error_showing rfl hw

namespace Sql

theorem tells_projectionItem (h : v.isWritable = true) : Tells (projectionItem v) := by
  unfold projectionItem
  split
  · dsimp only
    split_ifs
    · exact .error rfl
    · exact .ok _
    · exact .ok _
    · exact .ok _
  · exact .error_showing rfl h

theorem tells_aliasedItem {name : Value} (hname : name.isWritable = true)
    (h : v.isWritable = true) : Tells (aliasedItem name v) := by
  refine (tells_projectionItem h).bind fun column => ?_
  split
  · exact .ok _
  · split_ifs
    · exact .error rfl
    · exact .ok _
  · exact Tells.error_showing rfl hname

theorem tells_projection (h : v.isWritable = true) : Tells (projection v) := by
  have hparts : ∀ u ∈ v.parts, Tells (projectionItem u) :=
    fun u hu => tells_projectionItem (Value.isWritable_part h hu)
  unfold projection
  split
  · exact .ok _
  · exact (tells_projectionItem h).map _
  · rename_i entries
    have hentries := Value.allEntriesWritable_iff.mp h
    have hitems : ∀ e ∈ entries, Tells (aliasedItem e.1 e.2) :=
      fun e he => tells_aliasedItem (hentries e he).1 (hentries e he).2
    exact (Result.Fails.mapM hitems).map _
  · exact (Result.Fails.mapM hparts).map _
  · exact (Result.Fails.mapM hparts).map _
  · exact .error rfl

end Sql

end RowQuery
