import RowQuery.Proofs.KeyNumbers
import RowQuery.Proofs.QuotedNames

/-! Tables named in literals. The main table of a text is searched in all of it, so a literal that
names a table is found like the code around it. The marks around a literal stop the search for a
name, so the text names what its parts name, one after another: two texts with the same code have
the same main table unless a literal before the code's table names one. -/

namespace RowQuery

open Running

namespace Sql

/-! ### Literals -/

/-- The marks around literals. Backticks stand around names. -/
inductive Mark
  | single
  | double
  deriving DecidableEq, Repr

namespace Mark

def char : Mark → Char
  | single => '\x27'
  | double => '\x22'

/-- The mark of a segment that is a literal. -/
def ofQuote? (quote : Option Char) : Option Mark :=
  if quote = some '\x27' then some single else if quote = some '\x22' then some double else none

theorem eq_of_ofQuote? {quote : Option Char} {m : Mark} (h : ofQuote? quote = some m) :
    quote = some m.char := by
  unfold ofQuote? at h
  split_ifs at h with hs hd
  · rw [hs, ← Option.some.inj h]
    rfl
  · rw [hd, ← Option.some.inj h]
    rfl

end Mark

/-- A text cut at its literals. Each stands between two of its marks, but the one that the text may
end in. -/
inductive Cut
  | code (cs : List Char)
  | opened (cs : List Char) (mark : Mark) (contents : List Char)
  | closed (cs : List Char) (mark : Mark) (contents : List Char) (rest : Cut)
  deriving DecidableEq, Repr

namespace Cut

def text : Cut → List Char
  | code cs => cs
  | opened cs mark contents => cs ++ mark.char :: contents
  | closed cs mark contents rest => cs ++ mark.char :: (contents ++ mark.char :: rest.text)

/-- The text without the contents of its literals. -/
def emptied : Cut → Cut
  | code cs => code cs
  | opened cs mark _ => opened cs mark []
  | closed cs mark _ rest => closed cs mark [] rest.emptied

/-- One more character in front of a text. -/
def before (c : Char) : Cut → Cut
  | code cs => code (c :: cs)
  | opened cs mark contents => opened (c :: cs) mark contents
  | closed cs mark contents rest => closed (c :: cs) mark contents rest

/-- One more character in front of the contents of the first literal. -/
def inside (c : Char) : Cut → Cut
  | code cs => code cs
  | opened cs mark contents => opened cs mark (c :: contents)
  | closed cs mark contents rest => closed cs mark (c :: contents) rest

@[simp] theorem text_before (c : Char) (t : Cut) : (t.before c).text = c :: t.text := by
  cases t <;> rfl

end Cut

/-- A text whose characters are given with the quotes after them, cut where literals begin and end.
What starts in a literal is cut with the mark before it. -/
def cutFrom : (quote : Option Char) → List (Char × Option Char) → Cut
  | quote, [] => match Mark.ofQuote? quote with
    | some mark => .opened [] mark []
    | none => .code []
  | quote, (c, after) :: rest => match Mark.ofQuote? quote, Mark.ofQuote? after with
    | none, none => (cutFrom after rest).before c
    | none, some _ => cutFrom after rest
    | some _, some _ => (cutFrom after rest).inside c
    | some mark, none => .closed [] mark [] (cutFrom after rest)

/-- A text cut at its literals. -/
def cut (sql : String) : Cut := cutFrom none (sql.toList.zip (quotesAfter none sql.toList))

/-- Two texts differ in the contents of their literals only. -/
def SameCode (a b : String) : Prop := (cut a).emptied = (cut b).emptied

instance (a b : String) : Decidable (SameCode a b) := inferInstanceAs (Decidable (_ = _))

/-- What a cut of a text that starts in a quote is made of: the text, and the mark before it when it
starts in a literal. -/
def Cut.Reads (quote : Option Char) (cs : List Char) (t : Cut) : Prop :=
  match Mark.ofQuote? quote with
  | none => t.text = cs
  | some mark => t = opened [] mark cs ∨
      ∃ contents rest, t = closed [] mark contents rest ∧ contents ++ mark.char :: rest.text = cs

section Reads

variable {quote : Option Char} {c : Char} {cs : List Char} {rest : List (Char × Option Char)}

theorem reads_nil (quote : Option Char) : (cutFrom quote []).Reads quote [] := by
  unfold Cut.Reads cutFrom
  cases Mark.ofQuote? quote with
  | none => rfl
  | some mark => exact .inl rfl

/-- A character that leaves the quote as it is belongs to the part that is read. -/
theorem reads_stay (c : Char) (h : (cutFrom quote rest).Reads quote cs) :
    (cutFrom quote ((c, quote) :: rest)).Reads quote (c :: cs) := by
  unfold Cut.Reads at *
  rw [cutFrom]
  cases hq : Mark.ofQuote? quote with
  | none =>
    simp only [hq] at h ⊢
    rw [Cut.text_before, h]
  | some mark =>
    simp only [hq] at h ⊢
    obtain h | ⟨contents, t, h, rfl⟩ := h
    · rw [h]
      exact .inl rfl
    · rw [h]
      exact .inr ⟨c :: contents, t, rfl, rfl⟩

theorem reads_enter (h : (cutFrom (some c) rest).Reads (some c) cs) :
    (cutFrom none ((c, some c) :: rest)).Reads none (c :: cs) := by
  unfold Cut.Reads at h
  change (cutFrom none ((c, some c) :: rest)).text = c :: cs
  rw [cutFrom]
  cases hq : Mark.ofQuote? (some c) with
  | none =>
    simp only [hq] at h
    exact (Cut.text_before c _).trans (congrArg _ h)
  | some mark =>
    obtain rfl := Option.some.inj (Mark.eq_of_ofQuote? hq)
    simp only [hq] at h
    obtain h | ⟨contents, t, h, rfl⟩ := h <;> exact congrArg Cut.text h

theorem reads_leave (h : (cutFrom none rest).Reads none cs) :
    (cutFrom (some c) ((c, none) :: rest)).Reads (some c) (c :: cs) := by
  replace h : (cutFrom none rest).text = cs := h
  unfold Cut.Reads
  rw [cutFrom]
  cases hq : Mark.ofQuote? (some c) with
  | none => exact (Cut.text_before c _).trans (congrArg _ h)
  | some mark =>
    obtain rfl := Option.some.inj (Mark.eq_of_ofQuote? hq)
    exact .inr ⟨[], _, rfl, congrArg (mark.char :: ·) h⟩

end Reads

theorem cutFrom_reads (quote : Option Char) (cs : List Char) :
    (cutFrom quote (cs.zip (quotesAfter quote cs))).Reads quote cs := by
  fun_induction quotesAfter quote cs with
  | case1 quote => exact reads_nil quote
  | case2 c cs hc ih => exact reads_enter ih
  | case3 c cs hc ih => exact reads_stay c ih
  | case4 q c hc => exact reads_stay c (reads_nil _)
  | case5 q hc => exact reads_leave (reads_nil none)
  | case6 q c hb hc => exact reads_stay c (reads_nil _)
  | case7 q c d cs hb ih => exact reads_stay c (reads_stay d ih)
  | case8 q cs hb ih => exact reads_stay q (reads_stay q ih)
  | case9 q d cs hb hd ih => exact reads_leave ih
  | case10 q c d cs hb hc ih => exact reads_stay c ih

/-- The parts of a text make up the text. -/
theorem text_cut (sql : String) : (cut sql).text = sql.toList := cutFrom_reads none sql.toList

/-! ### Tables between marks -/

namespace Mark

variable (m : Mark)

theorem isWord_char : Text.isWord m.char = false := by cases m <;> decide

theorem isBlank_char : Text.isBlank m.char = false := by cases m <;> decide

theorem isTableChar_char : isTableChar m.char = false := by cases m <;> decide

theorem char_ne_backtick : m.char ≠ backtick := by cases m <;> decide

/-- No keyword has a mark among its letters. -/
theorem isFormOf_char : ∀ k ∈ "fromjoin".toList, isFormOf k m.char = false := by
  have hall : "fromjoin".toList.all (!isFormOf · m.char) = true := by cases m <;> decide
  simpa only [List.all_eq_true, Bool.not_eq_true'] using hall

end Mark

section Search

variable (m : Mark) (xs ys : List Char)

/-- A scan stops at a mark at the latest. -/
theorem takeWhile_append_mark {p : Char → Bool} (hp : p m.char = false) :
    (xs ++ m.char :: ys).takeWhile p = xs.takeWhile p := by
  induction xs with
  | nil => simp [hp]
  | cons x xs ih => simp only [List.cons_append, List.takeWhile_cons, ih]

theorem dropWhile_append_mark {p : Char → Bool} (hp : p m.char = false) :
    (xs ++ m.char :: ys).dropWhile p = xs.dropWhile p ++ m.char :: ys := by
  induction xs with
  | nil => simp [hp]
  | cons x xs ih =>
    simp only [List.cons_append, List.dropWhile_cons, ih]
    split <;> rfl

theorem afterKeyword?_append_mark {keyword : List Char} (hk : keyword ⊆ "fromjoin".toList) :
    afterKeyword? keyword (xs ++ m.char :: ys) =
      (afterKeyword? keyword xs).map (· ++ m.char :: ys) := by
  induction keyword generalizing xs with
  | nil => rfl
  | cons k ks ih =>
    obtain ⟨hk, hks⟩ := List.cons_subset.mp hk
    cases xs with
    | nil => simp [afterKeyword?, m.isFormOf_char k hk]
    | cons x xs =>
      simp only [List.cons_append, afterKeyword?, ih xs hks]
      split <;> rfl

/-- The name after a keyword ends before a mark. -/
theorem nameAfter?_append_mark : nameAfter? (xs ++ m.char :: ys) = nameAfter? xs := by
  cases xs with
  | nil => simp [nameAfter?, m.isBlank_char]
  | cons x xs =>
    unfold nameAfter?
    rw [dropWhile_append_mark m _ _ m.isBlank_char]
    simp only [List.cons_append]
    cases (x :: xs).dropWhile Text.isBlank with
    | nil => simp [m.char_ne_backtick, m.isTableChar_char]
    | cons d ds =>
      by_cases hd : d = backtick
      · simp only [List.cons_append, hd, ↓reduceIte, takeWhile_append_mark m _ _ m.isTableChar_char]
      · simp only [List.cons_append, hd, ↓reduceIte]
        rw [← List.cons_append, takeWhile_append_mark m _ _ m.isTableChar_char]

/-- The table that a keyword in front of a text names. -/
def tableHere? (afterWord : Bool) (cs : List Char) : Option String :=
  if afterWord then none
  else ((afterKeyword? "from".toList cs).bind nameAfter?).or
    ((afterKeyword? "join".toList cs).bind nameAfter?)

theorem mainTableFrom_cons (afterWord : Bool) (c : Char) (cs : List Char) :
    mainTableFrom afterWord (c :: cs) =
      (tableHere? afterWord (c :: cs)).or (mainTableFrom (Text.isWord c) cs) := by
  rw [mainTableFrom, ← tableHere?]
  cases tableHere? afterWord (c :: cs) <;> rfl

theorem tableHere?_append_mark (afterWord : Bool) :
    tableHere? afterWord (xs ++ m.char :: ys) = tableHere? afterWord xs := by
  have hname (keyword : List Char) (hk : keyword ⊆ "fromjoin".toList) :
      (afterKeyword? keyword (xs ++ m.char :: ys)).bind nameAfter? =
        (afterKeyword? keyword xs).bind nameAfter? := by
    rw [afterKeyword?_append_mark m xs ys hk]
    cases afterKeyword? keyword xs with
    | none => rfl
    | some rest => exact nameAfter?_append_mark m rest ys
  rw [tableHere?, tableHere?, hname _ (by decide), hname _ (by decide)]

/-- What a mark separates names tables by itself. -/
theorem mainTableFrom_append_mark (afterWord : Bool) :
    mainTableFrom afterWord (xs ++ m.char :: ys) =
      (mainTableFrom afterWord xs).or (mainTableFrom false ys) := by
  induction xs generalizing afterWord with
  | nil =>
    have hnone : tableHere? afterWord [] = none := by cases afterWord <;> rfl
    have hhere := tableHere?_append_mark m [] ys afterWord
    rw [List.nil_append] at hhere ⊢
    rw [mainTableFrom_cons, hhere, hnone, m.isWord_char]
    rfl
  | cons x xs ih =>
    have hhere := tableHere?_append_mark m (x :: xs) ys afterWord
    rw [List.cons_append] at hhere ⊢
    rw [mainTableFrom_cons, hhere, ih, mainTableFrom_cons, Option.or_assoc]

end Search

namespace Cut

/-- The first table that a part of a text names, be it code or a literal. -/
def firstTable? : Cut → Option String
  | code cs => mainTableFrom false cs
  | opened cs _ contents => (mainTableFrom false cs).or (mainTableFrom false contents)
  | closed cs _ contents rest =>
    (mainTableFrom false cs).or ((mainTableFrom false contents).or rest.firstTable?)

/-- The first table that a literal names before the code names one. -/
def strayTable? : Cut → Option String
  | code _ => none
  | opened cs _ contents =>
    if (mainTableFrom false cs).isSome then none else mainTableFrom false contents
  | closed cs _ contents rest =>
    if (mainTableFrom false cs).isSome then none
    else (mainTableFrom false contents).or rest.strayTable?

theorem mainTableFrom_text (t : Cut) : mainTableFrom false t.text = t.firstTable? := by
  induction t with
  | code cs => rfl
  | opened cs mark contents => exact mainTableFrom_append_mark mark cs contents false
  | closed cs mark contents rest ih =>
    rw [text, mainTableFrom_append_mark, mainTableFrom_append_mark, ih, firstTable?]

theorem firstTable?_eq (t : Cut) : t.firstTable? = t.strayTable?.or t.emptied.firstTable? := by
  induction t with
  | code cs => rfl
  | opened cs mark contents =>
    rw [firstTable?, strayTable?, emptied, firstTable?]
    cases mainTableFrom false cs <;> simp [mainTableFrom]
  | closed cs mark contents rest ih =>
    rw [firstTable?, strayTable?, emptied, firstTable?, ih]
    cases mainTableFrom false cs <;> simp [mainTableFrom, Option.or_assoc]

end Cut

/-- The main table of a text without the contents of its literals. -/
def codeTable? (sql : String) : Option String := mainTableFrom false (cut sql).emptied.text

/-- The table that a literal of a text names, when it stands before the main table of the code. -/
def strayTable? (sql : String) : Option String := (cut sql).strayTable?

/-- A literal that names a table hides the one that the code names after it. -/
theorem mainTable?_eq (sql : String) : mainTable? sql = (strayTable? sql).or (codeTable? sql) := by
  rw [mainTable?, ← text_cut, Cut.mainTableFrom_text, Cut.firstTable?_eq, codeTable?,
    Cut.mainTableFrom_text]
  rfl

theorem SameCode.codeTable?_eq {a b : String} (h : SameCode a b) : codeTable? a = codeTable? b := by
  rw [codeTable?, codeTable?, show (cut a).emptied = (cut b).emptied from h]

theorem nameAfter?_ne_some_empty (cs : List Char) : nameAfter? cs ≠ some "" := by
  unfold nameAfter?
  cases cs with
  | nil => simp
  | cons c cs =>
    dsimp only
    split
    · simp
    · split
      · simp
      · rename_i hname
        simpa using hname

/-- A table that a text names has a character at least. -/
theorem mainTableFrom_ne_some_empty (afterWord : Bool) (cs : List Char) :
    mainTableFrom afterWord cs ≠ some "" := by
  have hor {x y : Option String} (hx : x ≠ some "") (hy : y ≠ some "") : x.or y ≠ some "" :=
    fun h => (Option.or_eq_some_iff.mp h).elim hx fun h => hy h.2
  have hkeyword (keyword cs : List Char) :
      (afterKeyword? keyword cs).bind nameAfter? ≠ some "" := by
    cases afterKeyword? keyword cs with
    | none => simp
    | some rest => exact nameAfter?_ne_some_empty rest
  induction cs generalizing afterWord with
  | nil => simp [mainTableFrom]
  | cons c cs ih =>
    rw [mainTableFrom_cons]
    refine hor ?_ (ih _)
    rw [tableHere?]
    split
    · simp
    · exact hor (hkeyword _ _) (hkeyword _ _)

end Sql

/-! ### Rows of selected tables -/

namespace Row

/-- The table that a record is bound to. -/
def tableName? (r : Row) : Option String :=
  match r.owner with
  | some (.table t) => some t.name
  | _ => none

variable {model : Model} {columns : List (String × Value)} {r : Row}

theorem ofColumns_eq_ok (h : ofColumns model columns = .ok r) :
    r.model = model ∧ r.owner = none := by
  obtain ⟨fields, -, h⟩ := Result.bind_eq_ok.mp h
  rw [← Except.ok.inj h]
  exact ⟨rfl, rfl⟩

/-- A row is of the class that it is read into, and a record belongs to its table. -/
theorem hydrate_eq_ok {t : Option Table} (h : hydrate model columns t = .ok r) :
    r.model = model ∧ r.owner = if model.isRecord then t.map .table else none := by
  obtain ⟨s, hs, rfl⟩ := Result.map_eq_ok.mp h
  obtain ⟨rfl, howner⟩ := ofColumns_eq_ok hs
  unfold read
  split_ifs
  · exact ⟨rfl, rfl⟩
  · exact ⟨rfl, howner⟩

/-- Rows that are no records belong to no table. -/
theorem hydrate_of_not_isRecord (columns : List (String × Value))
    (h : model.isRecord = false) (t t' : Option Table) :
    hydrate model columns t = hydrate model columns t' := by
  unfold hydrate
  cases hr : ofColumns model columns with
  | error f => rfl
  | ok r =>
    obtain ⟨rfl, -⟩ := ofColumns_eq_ok hr
    simp only [Except.map, read, h, Bool.false_eq_true, ↓reduceIte]

/-- Without columns every field has its default. -/
theorem exists_hydrate_nil (model : Model) (t : Option Table) :
    ∃ r, hydrate model [] t = .ok r := by
  have hfields (fields : List Field) : ∃ values, readFields [] fields = .ok values := by
    induction fields with
    | nil => exact ⟨[], rfl⟩
    | cons f fields ih =>
      obtain ⟨values, hvalues⟩ := ih
      exact ⟨(f.name, f.type.default) :: values, Result.map_eq_ok.mpr ⟨values, hvalues, rfl⟩⟩
  obtain ⟨values, hvalues⟩ := hfields model.fields
  exact ⟨_, Result.map_eq_ok.mpr ⟨_, Result.bind_eq_ok.mpr ⟨values, hvalues, rfl⟩, rfl⟩⟩

end Row

namespace Database

variable {w : World} {id : Nat} {d : Database} {sql : String} {arguments : Value}

/-- The class that rows are read into when a text names a table, and the table that records are
bound to. -/
def hydration (d : Database) (named : Option String) : Model × Option String :=
  match named.bind fun name => (Keyed.find? d.models name).map fun model => (model, name) with
  | some (model, name) => (model, if model.isRecord then some name else none)
  | none => (.result, none)

/-- The table that a database has by a name, or will have. -/
def tableNamed (w : World) (id : Nat) (d : Database) (name : String) : Table :=
  { id := (Keyed.find? d.tables name).getD w.nextTable, name, database := some id }

theorem run_table (hd : w.databases[id]? = some d) {name : String} (hn : name ≠ "") :
    ∃ v, (table id (.text name)).run.run w = (.ok (tableNamed w id d name), v) ∧
      v.rows = w.rows ∧ v.statements = w.statements := by
  have hdb : (World.database id).run.run w = (.ok d, w) := by rw [run_database, hd]
  have he : name.isEmpty = false := by simpa using hn
  unfold table
  simp only [Value.isKey, Bool.not_true, Bool.false_eq_true, ↓reduceIte]
  rw [run_bind_of_ok hdb]
  simp only [knownTable?, he, Bool.false_eq_true, ↓reduceIte]
  cases hf : Keyed.find? d.tables name with
  | some n =>
    refine ⟨w, ?_, rfl, rfl⟩
    simp only [tableNamed, hf]
    rfl
  | none =>
    have hadd : (World.addTable (.text name) (some id)).run.run w =
        (.ok { id := w.nextTable, name, database := some id },
          { w with nextTable := w.nextTable + 1 }) := run_addTable_eq_ok.mpr ⟨hn, rfl, rfl⟩
    simp only [Option.map_none]
    have hdb : (World.database id).run.run { w with nextTable := w.nextTable + 1 } =
        (.ok d, { w with nextTable := w.nextTable + 1 }) := by rw [run_database, hd]
    rw [run_bind_of_ok hadd, run_bind_of_ok hdb, tableNamed, hf]
    exact ⟨_, rfl, rfl, rfl⟩

/-- The class and the table for the rows of a text depend on the table that it names only. -/
theorem run_sourceOf (sql : String) (hd : w.databases[id]? = some d) :
    ∃ t v, (sourceOf id sql).run.run w = (.ok ((d.hydration (Sql.mainTable? sql)).1, t), v) ∧
      v.rows = w.rows ∧ v.statements = w.statements ∧
      ((d.hydration (Sql.mainTable? sql)).1.isRecord = true →
        t = (d.hydration (Sql.mainTable? sql)).2.map (tableNamed w id d)) := by
  have hdb : (World.database id).run.run w = (.ok d, w) := by rw [run_database, hd]
  rw [sourceOf, run_bind_of_ok hdb]
  cases hm : Sql.mainTable? sql with
  | none => exact ⟨none, w, rfl, rfl, rfl, fun _ => rfl⟩
  | some name =>
    cases hf : Keyed.find? d.models name with
    | none =>
      simp only [hydration, Option.bind_some, hf, Option.map_none]
      exact ⟨none, w, rfl, rfl, rfl, fun _ => rfl⟩
    | some model =>
      have hn : name ≠ "" := by
        rintro rfl
        exact Sql.mainTableFrom_ne_some_empty false sql.toList hm
      obtain ⟨v, hv, hrows, hstatements⟩ := run_table hd hn
      refine ⟨some (tableNamed w id d name), v, ?_, hrows, hstatements, ?_⟩
      · simp only [hydration, Option.bind_some, hf, Option.map_some]
        rw [run_bind_of_ok hv]
        rfl
      · simp only [hydration, Option.bind_some, hf, Option.map_some]
        intro hr
        rw [if_pos hr]
        rfl

/-- The answer to a text, and the rows that are known then. -/
def read (p : Except Error Answer × World) : Except Error Answer × List Row := (p.1, p.2.rows)

/-- What is read of a selection, by the class and the table that its rows are read into. -/
def selection (w : World) (id : Nat) (d : Database) (source : Model × Option String)
    (arguments : Value) : Except Error Answer × List Row :=
  match arguments.bound?, w.connection.queue.headD .empty with
  | none, _ => (.error (.fault .type), w.rows)
  | some _, .failure code text _ => (.error (.database (.driver code text)), w.rows)
  | some _, .result columns rows _ _ =>
    match (({ sql := "", columns, rows := if columns.isEmpty then [] else rows } :
      Prepared).readRows source.1 (source.2.map (tableNamed w id d))) with
    | .ok read => (.ok (.rows (List.range' w.rows.length read.length)), w.rows ++ read)
    | .error f => (.error (.fault f), w.rows)

theorem run_select (hs : Sql.verb sql = "select") (hd : w.databases[id]? = some d) :
    read ((query id sql arguments).run.run w) =
      selection w id d (d.hydration (Sql.mainTable? sql)) arguments := by
  rw [query_select hs id arguments, selection]
  cases ha : arguments.bound? with
  | none =>
    rw [Statement.run_ask_refused sql _ hd ha]
    rfl
  | some args =>
    rw [Statement.run_ask sql _ hd ha]
    cases w.connection.queue.headD .empty with
    | failure code text columns => rfl
    | result columns rows n last =>
      let s := ({ sql } : Prepared).receive columns rows n last
      obtain ⟨t, v, hv, hrows, hstatements, ht⟩ :=
        run_sourceOf sql (database_asked hd ⟨sql, args⟩ s)
      have hv : (sourceOf id sql).run.run (w.asked id d ⟨sql, args⟩ s) =
        (.ok ((d.hydration (Sql.mainTable? sql)).1, t), v) := hv
      have hs : v.statements[w.statements.length]? = some s :=
        hstatements ▸ statement_asked w id d ⟨sql, args⟩ s
      have hread : s.readRows (d.hydration (Sql.mainTable? sql)).1 t =
          s.readRows (d.hydration (Sql.mainTable? sql)).1
            ((d.hydration (Sql.mainTable? sql)).2.map (tableNamed w id d)) := by
        cases hr : (d.hydration (Sql.mainTable? sql)).1.isRecord with
        | true => exact congrArg _ (ht hr)
        | false =>
          have hrow (row : List Value) := Row.hydrate_of_not_isRecord (s.columnsOf row) hr
          simp only [Prepared.readRows, hrow _ t none, hrow _ (Option.map _ _) none]
      have hs' : ({ sql := "", columns, rows := if columns.isEmpty then [] else rows } :
          Prepared).readRows = s.readRows := rfl
      dsimp only
      rw [run_bind_of_ok hv, run_bind, Statement.run_fetchAll hs, hread, hrows, hs']
      cases s.readRows (d.hydration (Sql.mainTable? sql)).1
        ((d.hydration (Sql.mainTable? sql)).2.map (tableNamed w id d)) with
      | error f => exact Prod.ext rfl hrows
      | ok rows => rfl

/-- Both texts are answered alike, with rows of the same classes that belong to the same tables. -/
def ReadAlike (w : World) (id : Nat) (arguments : Value) (a b : String) : Prop :=
  read ((query id a arguments).run.run w) = read ((query id b arguments).run.run w)

/-- A database that is answered with one row without values. -/
def oneRow (d : Database) : World :=
  { databases := [d], connection := { queue := [.result ["x"] [[]] 0 .null] } }

/-- Tables are bound to records only. -/
theorem hydration_of_not_isRecord {named : Option String}
    (h : (d.hydration named).1.isRecord = false) : (d.hydration named).2 = none := by
  unfold hydration at *
  split at h
  · exact if_neg (by simpa using h)
  · rfl

/-- The row tells the class and the table. -/
theorem selection_oneRow (d : Database) (named : Option String) : ∃ r,
    selection (oneRow d) 0 d (d.hydration named) .null = (.ok (.rows [0]), [r]) ∧
      (r.model, r.tableName?) = d.hydration named := by
  obtain ⟨r, hr⟩ := Row.exists_hydrate_nil (d.hydration named).1
    ((d.hydration named).2.map (tableNamed (oneRow d) 0 d))
  have hread : ({ sql := "", columns := ["x"], rows := [[]] } : Prepared).readRows
      (d.hydration named).1 ((d.hydration named).2.map (tableNamed (oneRow d) 0 d)) = .ok [r] :=
    Result.mapM_eq_ok.mpr (.cons hr .nil)
  have hbound : Value.null.bound? = some [] := rfl
  have hqueue : (oneRow d).connection.queue.headD .empty = .result ["x"] [[]] 0 .null := rfl
  obtain ⟨hmodel, howner⟩ := Row.hydrate_eq_ok hr
  refine ⟨r, ?_, Prod.ext hmodel ?_⟩
  · simp only [selection, hbound, hqueue, List.isEmpty_cons, Bool.false_eq_true, ↓reduceIte, hread]
    rfl
  · simp only [Row.tableName?, howner]
    cases hrecord : (d.hydration named).1.isRecord with
    | true => cases (d.hydration named).2 <;> rfl
    | false => exact (hydration_of_not_isRecord hrecord).symm

/-- Two selections that differ in the contents of their literals only are read alike by a database
exactly when the same class and table follow from the first tables that they name, literals
included. -/
theorem readAlike_iff {a b : String} (ha : Sql.verb a = "select") (hb : Sql.verb b = "select")
    (h : Sql.SameCode a b) :
    (∀ w id arguments, w.databases[id]? = some d → ReadAlike w id arguments a b) ↔
      d.hydration ((Sql.strayTable? a).or (Sql.codeTable? a)) =
        d.hydration ((Sql.strayTable? b).or (Sql.codeTable? a)) := by
  rw [← Sql.mainTable?_eq, h.codeTable?_eq, ← Sql.mainTable?_eq]
  constructor
  · intro halike
    have h0 := halike (oneRow d) 0 .null rfl
    rw [ReadAlike, run_select ha rfl, run_select hb rfl] at h0
    obtain ⟨r, hr, hsource⟩ := selection_oneRow d (Sql.mainTable? a)
    obtain ⟨r', hr', hsource'⟩ := selection_oneRow d (Sql.mainTable? b)
    rw [hr, hr', Prod.mk.injEq, List.singleton_inj] at h0
    rw [← hsource, ← hsource', h0.2]
  · intro heq w id arguments hd
    rw [ReadAlike, run_select ha hd, run_select hb hd, heq]

/-- A database with one class for the rows of two tables. -/
def twoTables : Database :=
  { name := "shop", models := [("users", { name := "User" }), ("orders", { name := "User" })] }

/-- The database before it is answered with one row. -/
def answered : World :=
  { databases := [twoTables], connection :=
    { queue := [.result ["id", "name"] [[.int 1, .text "ann"]] 1 .null] } }

/-- Literals that name no table leave the table to the code. -/
theorem noted_readAlike :
    Sql.SameCode "SELECT 'x' AS note, u.* FROM users u"
        "SELECT 'Ann''s, \"FROM\" home' AS note, u.* FROM users u" ∧
      ReadAlike answered 0 .null "SELECT 'x' AS note, u.* FROM users u"
        "SELECT 'Ann''s, \"FROM\" home' AS note, u.* FROM users u" :=
  ⟨by decide,
    (readAlike_iff (by decide) (by decide) (by decide)).mpr (by decide) answered 0 .null rfl⟩

/-- Rows of users that are bound to orders, for the sake of what a literal says. -/
theorem notedOrders_bound_apart :
    Sql.verb "SELECT 'x FROM orders' AS note, u.* FROM users u" = "select" ∧
      Sql.verb "SELECT 'x' AS note, u.* FROM users u" = "select" ∧
      Sql.SameCode "SELECT 'x FROM orders' AS note, u.* FROM users u"
        "SELECT 'x' AS note, u.* FROM users u" ∧
      (read ((query 0 "SELECT 'x FROM orders' AS note, u.* FROM users u").run.run
        answered)).2.map Row.tableName? = [some "orders"] ∧
      (read ((query 0 "SELECT 'x' AS note, u.* FROM users u").run.run answered)).2.map
        Row.tableName? = [some "users"] := by
  decide +kernel

end Database

end RowQuery
