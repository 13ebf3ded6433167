import Mathlib.Data.List.Infix
import RowQuery.Proofs.Unbound

/-! Lists of what is selected, cut up again. A reader that keeps track of quotes and of open
parentheses finds the commas between the items and no others: names are quoted, and an expression
that closes its own quotes and parentheses stands inside a pair of them. So there is one item for
each requested column, under the name that a mapping gives it. -/

namespace RowQuery.Sql

open Quoting

/-! ### Commas outside of quotes and parentheses -/

/-- Where a reader stands that counts the parentheses opened outside of quotes. -/
structure Nesting where
  quoting : Quoting := .outside
  depth : Int := 0
  deriving DecidableEq

namespace Nesting

/-- What a character adds to the number of open parentheses. -/
def gain : Quoting → Char → Int
  | .outside, c => if c = '(' then 1 else if c = ')' then -1 else 0
  | _, _ => 0

def step (n : Nesting) (c : Char) : Nesting := ⟨n.quoting.step c, n.depth + gain n.quoting c⟩

/-- Where the reader stands after a text. -/
def run (n : Nesting) (cs : List Char) : Nesting := cs.foldl step n

/-- A comma outside of quotes and parentheses. -/
def Cuts (n : Nesting) (c : Char) : Prop := c = ',' ∧ n = {}

instance (n : Nesting) (c : Char) : Decidable (n.Cuts c) := inferInstanceAs (Decidable (_ ∧ _))

/-- The pieces of a text between the commas outside of quotes and parentheses. -/
def pieces : Nesting → List Char → List (List Char)
  | _, [] => [[]]
  | n, c :: cs =>
    if n.Cuts c then [] :: (n.step c).pieces cs
    else match (n.step c).pieces cs with
      | [] => [[c]]
      | piece :: pieces => (c :: piece) :: pieces

/-- A text without commas outside of quotes and parentheses. -/
def Uncut : Nesting → List Char → Prop
  | _, [] => True
  | n, c :: cs => ¬ n.Cuts c ∧ (n.step c).Uncut cs

instance decidableUncut : (n : Nesting) → (cs : List Char) → Decidable (n.Uncut cs)
  | _, [] => inferInstanceAs (Decidable True)
  | n, c :: cs =>
    have := decidableUncut (n.step c) cs
    inferInstanceAs (Decidable (¬ n.Cuts c ∧ (n.step c).Uncut cs))

variable {n : Nesting} {s : Quoting} {d : Int} {cs ds p : List Char} {ps : List (List Char)}

@[simp] theorem run_nil (n : Nesting) : n.run [] = n := rfl

@[simp] theorem run_cons (n : Nesting) (c : Char) (cs : List Char) :
    n.run (c :: cs) = (n.step c).run cs := rfl

@[simp] theorem run_append (n : Nesting) (cs ds : List Char) :
    n.run (cs ++ ds) = (n.run cs).run ds := List.foldl_append

theorem uncut_append : n.Uncut (cs ++ ds) ↔ n.Uncut cs ∧ (n.run cs).Uncut ds := by
  induction cs generalizing n with
  | nil => exact (and_iff_right trivial).symm
  | cons c cs ih => rw [List.cons_append, Uncut, Uncut, ih, run_cons, and_assoc]

/-- A text that is not cut goes to the first piece of what follows. -/
theorem Uncut.pieces_append (h : n.Uncut cs) (hd : (n.run cs).pieces ds = p :: ps) :
    n.pieces (cs ++ ds) = (cs ++ p) :: ps := by
  induction cs generalizing n with
  | nil => exact hd
  | cons c cs ih =>
    obtain ⟨hc, hcs⟩ := h
    rw [List.cons_append, pieces, if_neg hc, ih hcs hd]
    rfl

/-- Parentheses that were open before are open after a text, too. -/
theorem run_add (k : Int) (cs : List Char) : (⟨s, d + k⟩ : Nesting).run cs =
    ⟨((⟨s, d⟩ : Nesting).run cs).quoting, ((⟨s, d⟩ : Nesting).run cs).depth + k⟩ := by
  induction cs generalizing s d with
  | nil => rfl
  | cons c cs ih =>
    rw [run_cons, run_cons, step, step, Int.add_right_comm, ih]

/-- Inside of parentheses nothing is cut as long as these are not closed. -/
theorem uncut_of_nonneg (h : ∀ pre, pre <+: cs → 0 ≤ ((⟨s, d⟩ : Nesting).run pre).depth) :
    (⟨s, d + 1⟩ : Nesting).Uncut cs := by
  induction cs generalizing s d with
  | nil => trivial
  | cons c cs ih =>
    have hd : 0 ≤ d := h [] (List.nil_prefix)
    constructor
    · rintro ⟨-, he⟩
      have hz : d + 1 = 0 := congrArg depth he
      omega
    · rw [step, Int.add_right_comm]
      exact ih fun pre hpre => h (c :: pre) (List.cons_prefix_cons.mpr ⟨rfl, hpre⟩)

/-- A text that leads a reader from one place to another, without commas that separate pieces. -/
structure Passes (n m : Nesting) (cs : List Char) : Prop where
  uncut : n.Uncut cs
  run_eq : n.run cs = m

namespace Passes

variable {m k : Nesting}

instance (n m : Nesting) (cs : List Char) : Decidable (Passes n m cs) :=
  decidable_of_iff (n.Uncut cs ∧ n.run cs = m) ⟨fun h => ⟨h.1, h.2⟩, fun h => ⟨h.1, h.2⟩⟩

theorem nil : Passes n n [] := ⟨trivial, rfl⟩

theorem append (hc : Passes n m cs) (hd : Passes m k ds) : Passes n k (cs ++ ds) where
  uncut := uncut_append.mpr ⟨hc.uncut, hc.run_eq.symm ▸ hd.uncut⟩
  run_eq := by rw [run_append, hc.run_eq, hd.run_eq]

theorem pieces_eq (h : Passes n m cs) : n.pieces cs = [cs] := by
  have hnil : (n.run cs).pieces [] = [[]] := rfl
  simpa using h.uncut.pieces_append hnil

/-- A text that ends outside of everything is cut from the one behind the next comma. -/
theorem pieces_append_comma (h : Passes n {} cs) (ds : List Char) :
    n.pieces (cs ++ ',' :: ds) = cs :: ({} : Nesting).pieces ds := by
  have hcomma : (n.run cs).pieces (',' :: ds) = [] :: ({} : Nesting).pieces ds := by
    rw [h.run_eq, pieces, if_pos ⟨rfl, rfl⟩]
    rfl
  simpa using h.uncut.pieces_append hcomma

end Passes

end Nesting

open Nesting

/-- A text that is one piece, with all its quotes and parentheses closed. -/
abbrev IsItem (cs : List Char) : Prop := Passes {} {} cs

/-- Closes all the quotes and parentheses it opens, and no others. -/
structure IsBalanced (cs : List Char) : Prop where
  nonneg : ∀ pre, pre <+: cs → 0 ≤ (({} : Nesting).run pre).depth
  run_eq : ({} : Nesting).run cs = {}

instance (cs : List Char) : Decidable (IsBalanced cs) :=
  decidable_of_iff
    ((∀ pre ∈ cs.inits, 0 ≤ (({} : Nesting).run pre).depth) ∧ ({} : Nesting).run cs = {})
    ⟨fun h => ⟨fun pre hpre => h.1 pre ((List.mem_inits _ _).mpr hpre), h.2⟩,
      fun h => ⟨fun pre hpre => h.nonneg pre ((List.mem_inits _ _).mp hpre), h.run_eq⟩⟩

/-- An expression in parentheses is one item, commas and all. -/
theorem IsBalanced.isItem {cs : List Char} (h : IsBalanced cs) :
    IsItem ("( ".toList ++ cs ++ " )".toList) := by
  have hopen : Passes {} ⟨.outside, 1⟩ "( ".toList := by decide
  have hclose : Passes ⟨.outside, 1⟩ {} " )".toList := by decide
  have hinner : Passes ⟨.outside, 1⟩ ⟨.outside, 1⟩ cs := by
    have hrun := run_add (s := .outside) (d := 0) 1 cs
    rw [h.run_eq] at hrun
    exact ⟨uncut_of_nonneg h.nonneg, hrun⟩
  exact (hopen.append hinner).append hclose

/-- Whatever a name holds is inside of backticks. -/
theorem double_passes (cs : List Char) :
    Passes ⟨inside backtick, 0⟩ ⟨inside backtick, 0⟩ (double cs) := by
  have hdoubled : Passes ⟨inside backtick, 0⟩ ⟨inside backtick, 0⟩ [backtick, backtick] := by
    decide
  induction cs with
  | nil => exact .nil
  | cons c cs ih =>
    rw [double]
    split_ifs with hc
    · exact hdoubled.append ih
    · have hstep : (⟨inside backtick, 0⟩ : Nesting).step c = ⟨inside backtick, 0⟩ := by
        rw [Nesting.step, Quoting.step, if_neg (fun h => h.2 rfl), if_neg hc]
        rfl
      have hcut : ¬ (⟨inside backtick, 0⟩ : Nesting).Cuts c := by
        rintro ⟨-, ⟨⟩⟩
      have hchar : Passes ⟨inside backtick, 0⟩ ⟨inside backtick, 0⟩ [c] :=
        ⟨⟨hcut, trivial⟩, hstep⟩
      exact hchar.append ih

theorem quote_isItem (name : String) : IsItem (quote name).toList := by
  have hopen : Passes {} ⟨inside backtick, 0⟩ [backtick] := by decide
  have hclose : Passes ⟨inside backtick, 0⟩ {} [backtick] := by decide
  rw [toList_quote, ← List.singleton_append]
  exact hopen.append ((double_passes name.toList).append hclose)

/-! ### Lists of items -/

/-- The pieces of a list of items, between the commas outside of quotes and parentheses. -/
def splitList (s : String) : List String := (({} : Nesting).pieces s.toList).map String.ofList

/-- Items as they stand in a list: every one but the first has a blank before it. -/
def spaced : List String → List String
  | [] => []
  | item :: items => item :: items.map (" " ++ ·)

theorem pieces_join {items : List String} (hne : items ≠ []) (h : ∀ s ∈ items, IsItem s.toList) :
    ({} : Nesting).pieces (Text.join ", " items).toList = (spaced items).map String.toList := by
  induction items with
  | nil => exact absurd rfl hne
  | cons s items ih =>
    obtain ⟨hs, hrest⟩ := List.forall_mem_cons.mp h
    cases items with
    | nil => exact hs.pieces_eq
    | cons t items =>
      have hblank : ({} : Nesting).Uncut [' '] := by decide
      have hnext := hblank.pieces_append (ih (List.cons_ne_nil t items) hrest)
      rw [join_cons_cons, String.toList_append, String.toList_append, List.append_assoc]
      change ({} : Nesting).pieces (s.toList ++ ',' :: ([' '] ++ _)) = _
      rw [hs.pieces_append_comma, hnext]
      simp [spaced]

theorem splitList_join {items : List String} (hne : items ≠ []) (h : ∀ s ∈ items, IsItem s.toList) :
    splitList (Text.join ", " items) = spaced items := by
  rw [splitList, pieces_join hne h, List.map_map]
  simp

/-! ### Requested columns -/

/-- The columns a value requests, each after the name that a mapping gives it, or after null. -/
def labelled : Value → List (Value × Value)
  | .text s => [(.null, .text s)]
  | .list items => items.map fun v => (.null, v)
  | .tuple items => items.map fun v => (.null, v)
  | .map entries => entries
  | _ => []

/-- A requested column as an item: everything, a quoted name, or an expression in parentheses. -/
inductive WrittenAs : Value → String → Prop
  | all {s : String} (h : Text.trim s = "*") : WrittenAs (.text s) "*"
  | name {s : String} (h : isPlain (Text.trim s) = true) :
    WrittenAs (.text s) (quote (Text.trim s))
  | expression {s : String} (ha : Text.trim s ≠ "*") (hn : isPlain (Text.trim s) = false) :
    WrittenAs (.text s) ("( " ++ Text.trim s ++ " )")

/-- A requested column as an item, with the name it is given. -/
inductive LabelledAs : Value × Value → String → Prop
  | unnamed {v : Value} {item : String} (h : WrittenAs v item) : LabelledAs (.null, v) item
  | named {name : String} {v : Value} {item : String} (hne : name ≠ "") (h : WrittenAs v item) :
    LabelledAs (.text name, v) (item ++ " AS " ++ quote name)

/-- An item that is given some name. -/
def IsNamed (v : Value) (item : String) : Prop :=
  ∃ name column, WrittenAs v column ∧ item = column ++ " AS " ++ quote name

/-- Every expression among the requested columns is balanced. -/
def RequestsBalanced (columns : Value) : Prop :=
  ∀ name s, (name, .text s) ∈ labelled columns → Text.trim s ≠ "*" →
    isPlain (Text.trim s) = false → IsBalanced (Text.trim s).toList

theorem projectionItem_writtenAs {v : Value} {item : String} (h : projectionItem v = .ok item) :
    WrittenAs v item := by
  unfold projectionItem at h
  split at h
  · simp only at h
    split_ifs at h with he hs hp
    · obtain rfl := Except.ok.inj h
      exact hs ▸ .all hs
    · obtain rfl := Except.ok.inj h
      exact .name hp
    · obtain rfl := Except.ok.inj h
      exact .expression hs (Bool.eq_false_iff.mpr hp)
  · contradiction

theorem aliasedItem_labelledAs {name v : Value} {item : String}
    (h : aliasedItem name v = .ok item) : LabelledAs (name, v) item := by
  obtain ⟨column, hc, h⟩ := Result.bind_eq_ok.mp h
  have hw := projectionItem_writtenAs hc
  split at h
  · obtain rfl := Except.ok.inj h
    exact .unnamed hw
  · split_ifs at h with hne
    obtain rfl := Except.ok.inj h
    exact .named (by simpa using hne) hw
  · contradiction

/-- A column is written in one way. -/
theorem WrittenAs.unique {v : Value} {item item' : String} (h : WrittenAs v item)
    (h' : WrittenAs v item') : item = item' := by
  cases h with
  | all hs => cases h' with
    | all _ => rfl
    | name hn => exact absurd hn (by rw [hs]; decide)
    | expression ha _ => exact absurd hs ha
  | name hn => cases h' with
    | all hs => exact absurd hn (by rw [hs]; decide)
    | name _ => rfl
    | expression _ hn' => exact absurd (hn.symm.trans hn') (by decide)
  | expression ha hn => cases h' with
    | all hs => exact absurd hs ha
    | name hn' => exact absurd (hn'.symm.trans hn) (by decide)
    | expression _ _ => rfl

/-- Only a column that was requested under null comes without a name. -/
theorem LabelledAs.isNamed_iff {label v : Value} {item : String} (h : LabelledAs (label, v) item) :
    IsNamed v item ↔ label ≠ .null := by
  cases h with
  | unnamed h =>
    refine iff_of_false ?_ fun hne => hne rfl
    rintro ⟨name, column, hc, hitem⟩
    have hlength := congrArg String.length (h.unique hc ▸ hitem)
    have hword : " AS ".length = 4 := rfl
    rw [String.length_append, String.length_append, hword] at hlength
    omega
  | named hne h => exact iff_of_true ⟨_, _, h, rfl⟩ nofun

theorem aliasedItem_null (v : Value) : aliasedItem .null v = projectionItem v := by
  rw [aliasedItem]
  cases projectionItem v <;> rfl

/-- A sequence of columns is a mapping from no names. -/
theorem projection_eq {columns : Value} (h : labelled columns ≠ []) : projection columns =
    ((labelled columns).mapM fun e => aliasedItem e.1 e.2).map projectionOf := by
  have hlist : ∀ vs : List Value, (vs.mapM projectionItem).map projectionOf =
      ((vs.map fun v => (Value.null, v)).mapM fun e => aliasedItem e.1 e.2).map projectionOf := by
    intro vs
    rw [List.mapM_map]
    simp only [Function.comp_def, aliasedItem_null]
  cases columns with
  | text s =>
    refine Eq.trans ?_ (hlist [.text s])
    rw [projection, List.mapM_cons, List.mapM_nil]
    cases projectionItem (.text s) <;> rfl
  | list items => exact hlist items
  | tuple items => exact hlist items
  | map entries => rfl
  | _ => exact absurd rfl h

theorem WrittenAs.isItem {v : Value} {item : String} (h : WrittenAs v item)
    (hb : ∀ s, v = .text s → Text.trim s ≠ "*" → isPlain (Text.trim s) = false →
      IsBalanced (Text.trim s).toList) : IsItem item.toList := by
  cases h with
  | all _ => decide
  | name _ => exact quote_isItem _
  | @expression s ha hn =>
    rw [String.toList_append, String.toList_append]
    exact (hb s rfl ha hn).isItem

theorem LabelledAs.isItem {e : Value × Value} {item : String} (h : LabelledAs e item)
    (hb : ∀ s, e.2 = .text s → Text.trim s ≠ "*" → isPlain (Text.trim s) = false →
      IsBalanced (Text.trim s).toList) : IsItem item.toList := by
  cases h with
  | unnamed h => exact h.isItem hb
  | @named name _ column _ h =>
    have hword : IsItem " AS ".toList := by decide
    rw [String.toList_append, String.toList_append]
    exact ((h.isItem hb).append hword).append (quote_isItem name)

/-- What is selected has one item for each requested column, in the order they were requested, as
long as every expression is balanced. An item comes with its name exactly when the column was
requested under one. -/
theorem projection_items {columns : Value} {text : String} (hne : labelled columns ≠ [])
    (h : projection columns = .ok text) (hb : RequestsBalanced columns) :
    ∃ items, splitList text = spaced items ∧ List.Forall₂
      (fun e item => LabelledAs e item ∧ (IsNamed e.2 item ↔ e.1 ≠ .null))
      (labelled columns) items := by
  rw [projection_eq hne] at h
  obtain ⟨items, hitems, rfl⟩ := Result.map_eq_ok.mp h
  have hlabels : List.Forall₂ LabelledAs (labelled columns) items :=
    (Result.mapM_eq_ok.mp hitems).imp fun e item he => aliasedItem_labelledAs he
  have heach : ∀ item ∈ items, IsItem item.toList := by
    intro item hitem
    obtain ⟨e, he, hi⟩ := Result.exists_of_mem_mapM hitems hitem
    refine (aliasedItem_labelledAs hi).isItem fun s hs => hb e.1 s ?_
    rwa [← hs]
  have hitemsne := Result.ne_nil_of_mapM hitems hne
  refine ⟨items, ?_, hlabels.imp fun e item he => ⟨he, he.isNamed_iff⟩⟩
  rw [projectionOf, if_neg (by simpa using hitemsne)]
  exact splitList_join hitemsne heach

/-- Columns under names with quotes and commas, one of them an expression with a comma and a
parenthesis inside of quotes. -/
def namedColumns : Value :=
  .map [(.text "a,`", .text " f(x, ')', g()) "), (.text "every)", .text "*"),
    (.null, .text "id")]

theorem namedColumns_projection :
    projection namedColumns = .ok "( f(x, ')', g()) ) AS `a,```, * AS `every)`, `id`" := by
  rfl

theorem namedColumns_balanced : RequestsBalanced namedColumns := by
  intro name s hs _ hn
  simp only [namedColumns, labelled, List.mem_cons, Prod.mk.injEq, Value.text.injEq,
    List.not_mem_nil, or_false] at hs
  rcases hs with ⟨-, rfl⟩ | ⟨-, rfl⟩ | ⟨-, rfl⟩
  · decide
  · decide
  · exact absurd hn (by decide)

theorem namedColumns_items :
    labelled namedColumns ≠ [] ∧
      projection namedColumns = .ok "( f(x, ')', g()) ) AS `a,```, * AS `every)`, `id`" ∧
      RequestsBalanced namedColumns ∧
      ∃ items, splitList "( f(x, ')', g()) ) AS `a,```, * AS `every)`, `id`" = spaced items ∧
        List.Forall₂ (fun e item => LabelledAs e item ∧ (IsNamed e.2 item ↔ e.1 ≠ .null))
          (labelled namedColumns) items := by
  have hne : labelled namedColumns ≠ [] := List.cons_ne_nil _ _
  exact ⟨hne, namedColumns_projection, namedColumns_balanced,
    projection_items hne namedColumns_projection namedColumns_balanced⟩

/-- Null among the names of a mapping is no name: the column it stands for is written without. -/
theorem nullName_unnamed : projection (.map [(.null, .text "id")]) = .ok "`id`" ∧
    ¬ ∃ items, splitList "`id`" = spaced items ∧
      List.Forall₂ (fun e item => IsNamed e.2 item) (labelled (.map [(.null, .text "id")])) items := by
  refine ⟨rfl, ?_⟩
  rintro ⟨items, hs, hall⟩
  obtain ⟨item, items, hnamed, hnil, rfl⟩ := List.forall₂_cons_left_iff.mp hall
  obtain rfl := List.forall₂_nil_left_iff.mp hnil
  have hid : splitList "`id`" = ["`id`"] := rfl
  obtain rfl : "`id`" = item := (List.cons.inj (hid.symm.trans hs)).1
  have hlabel : LabelledAs (.null, .text "id") "`id`" := aliasedItem_labelledAs rfl
  exact hlabel.isNamed_iff.mp hnamed rfl

end RowQuery.Sql
