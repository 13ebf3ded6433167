import RowQuery.Proofs.OpenQuotes
import RowQuery.Proofs.Parametricity

/-! Trees can be told from their compiled texts. When no leaf holds one of the signs that groups,
joiners and the marks of sequences are written with, every such sign in a text was written for one
of these, so the text is read in one way only. Two trees that compile to one text with related
values are therefore one tree with related values, but for what is never written: the combinator of
a group's first child, and whether a sequence is a list or a tuple. -/

namespace RowQuery.Condition

open Sql Quoting

variable {R : Value → Value → Prop}

/-- The signs that groups, joiners and the marks of sequences are told by. -/
def isSign (c : Char) : Bool := c == '(' || c == ')' || c == '&' || c == '|' || c == 'X'

/-- A tree of leaves that can be made, each with a text that is not empty and holds no sign, in
which every group has a child. -/
inductive IsLegible : Condition → Prop
  | leaf {sql : String} {args : List Value} (hl : IsLeaf sql args) (hne : sql ≠ "")
    (hs : ∀ c ∈ sql.toList, isSign c = false) : IsLegible (.leaf sql args)
  | group {cs : List (Combinator × Condition)} (hne : cs ≠ [])
    (h : ∀ child ∈ cs, IsLegible child.2) : IsLegible (.group cs)

theorem IsLegible.treeOf {c : Condition} (h : c.IsLegible) : c.TreeOf IsLeaf := by
  induction h with
  | leaf hl _ _ => exact .leaf hl
  | group _ _ ih => exact .group ih

mutual

/-- A condition as it is written: the combinator of the first child of a group, which is not, is
`and`. -/
def asWritten : Condition → Condition
  | .leaf sql args => .leaf sql args
  | .group cs => .group (childrenAsWritten true cs)
  | .stray v => .stray v
termination_by structural c => c

def childrenAsWritten (first : Bool) :
    List (Combinator × Condition) → List (Combinator × Condition)
  | [] => []
  | (combinator, c) :: cs =>
    (if first then .and else combinator, c.asWritten) :: childrenAsWritten false cs
termination_by structural cs => cs

end

mutual

theorem render_asWritten : ∀ c : Condition, c.asWritten.render = c.render
  | .leaf _ _ => rfl
  | .group cs => by rw [asWritten, render, render, renderChildren_asWritten true cs]
  | .stray _ => rfl
termination_by structural c => c

theorem renderChildren_asWritten : ∀ (first : Bool) (cs : List (Combinator × Condition)),
    renderChildren first (childrenAsWritten first cs) = renderChildren first cs
  | _, [] => rfl
  | first, (k, c) :: cs => by
    rw [childrenAsWritten, renderChildren, renderChildren, render_asWritten c,
      renderChildren_asWritten false cs]
    cases first <;> rfl
termination_by structural _ cs => cs

end

/-! ### What stands in a text -/

/-- The text of a condition, its parts one after another. -/
def text (c : Condition) : List Char := Fragment.textOf c.parts

/-- The text of the children of a group. -/
def textOfChildren (first : Bool) (cs : List (Combinator × Condition)) : List Char :=
  Fragment.textOf (partsOfChildren first cs)

theorem text_leaf (sql : String) (args : List Value) :
    (leaf sql args).text = outside.fill id sql.toList (args.map marksOf) := by
  rw [← toList_renderLeaf]
  exact List.append_nil _

theorem text_group (cs : List (Combinator × Condition)) :
    (group cs).text = '(' :: ' ' :: (textOfChildren true cs ++ [' ', ')']) := by
  rw [text, parts, Fragment.textOf_cons, Fragment.textOf_append]
  rfl

theorem textOfChildren_cons (first : Bool) (k : Combinator) (c : Condition)
    (cs : List (Combinator × Condition)) : textOfChildren first ((k, c) :: cs) =
      (if first then "" else joiner k).toList ++ c.text ++ textOfChildren false cs := by
  rw [textOfChildren, partsOfChildren, Fragment.textOf_cons, Fragment.textOf_append,
    List.append_assoc]
  rfl

/-- A tree compiles to its text and its values. -/
theorem TreeOf.render_text {c : Condition} (h : c.TreeOf IsLeaf) :
    ∃ b, c.render = .ok b ∧ b.sql.toList = c.text ∧ b.args = c.values := by
  obtain ⟨b, hb, hv⟩ := h.render_values
  exact ⟨b, hb, (parts_eq_ok hb).1.symm, hv⟩

/-- What comes after a condition in a text: nothing, or a blank and a sign that does not open a
parenthesis. -/
def Follows (rest : List Char) : Prop :=
  rest = [] ∨ ∃ c cs, rest = ' ' :: c :: cs ∧ isSign c = true ∧ c ≠ '('

theorem follows_joiner (k : Combinator) (rest : List Char) :
    Follows ((joiner k).toList ++ rest) := by
  cases k
  · exact .inr ⟨'&', '&' :: ' ' :: rest, rfl, rfl, by decide⟩
  · exact .inr ⟨'|', '|' :: ' ' :: rest, rfl, rfl, by decide⟩
  · exact .inr ⟨'X', 'O' :: 'R' :: ' ' :: rest, rfl, rfl, by decide⟩

/-- What comes after a child is a joiner or the end of the group. -/
theorem follows_children (cs : List (Combinator × Condition)) (rest : List Char) :
    Follows (textOfChildren false cs ++ ' ' :: ')' :: rest) := by
  cases cs with
  | nil => exact .inr ⟨')', rest, rfl, rfl, by decide⟩
  | cons child cs =>
    obtain ⟨k, c⟩ := child
    rw [textOfChildren_cons, List.append_assoc, List.append_assoc]
    exact follows_joiner k _

theorem joiner_append_inj {k l : Combinator} {xs ys : List Char}
    (h : (joiner k).toList ++ xs = (joiner l).toList ++ ys) : k = l ∧ xs = ys := by
  cases k <;> cases l <;> simp_all [joiner]

/-! ### Leaves -/

/-- The number of items of a sequence, none for a single value. -/
def width (v : Value) : Option Nat := v.items?.map List.length

theorem not_mem_intercalate_marks :
    ∀ n, ')' ∉ List.intercalate [','] (List.replicate n ['?'])
  | 0 => List.not_mem_nil
  | 1 => by decide
  | n + 2 => by
    rw [intercalate_marks_succ, List.mem_append, not_or]
    exact ⟨by decide, not_mem_intercalate_marks (n + 1)⟩

/-- The marks of a sequence end with the first parenthesis that closes. -/
theorem marks_append_inj {n m : Nat} {xs ys : List Char} (h : marks n ++ xs = marks m ++ ys) :
    n = m ∧ xs = ys := by
  simp only [marks, List.cons_append, List.append_assoc, List.nil_append, List.cons.injEq,
    true_and] at h
  have hcut := congrArg (Text.cutChars ')') h
  rw [Text.cutChars_append_cons (not_mem_intercalate_marks n),
    Text.cutChars_append_cons (not_mem_intercalate_marks m)] at hcut
  obtain ⟨hmarks, hrest⟩ := Prod.mk.inj hcut
  refine ⟨?_, Option.some.inj hrest⟩
  rw [← (intercalate_marks_binds n).count_eq, hmarks, (intercalate_marks_binds m).count_eq]

/-- Marks have no blank after the parenthesis that they open. -/
theorem marks_eq_cons (n : Nat) : ∃ c cs, marks n = '(' :: c :: cs ∧ c ≠ ' ' := by
  rcases n with _ | _ | n
  · exact ⟨_, _, rfl, by decide⟩
  · exact ⟨_, _, rfl, by decide⟩
  · rw [marks, intercalate_marks_succ]
    exact ⟨_, _, rfl, by decide⟩

/-- The marks of a value begin with a placeholder or open a parenthesis. -/
theorem marksOf_eq_cons (v : Value) : ∃ c cs, marksOf v = c :: cs ∧ (c = '?' ∨ c = '(') := by
  unfold marksOf
  split
  · exact ⟨_, _, rfl, .inr rfl⟩
  · exact ⟨_, _, rfl, .inl rfl⟩

theorem marksOf_append_inj {v u : Value} {xs ys : List Char}
    (h : marksOf v ++ xs = marksOf u ++ ys) : width v = width u ∧ xs = ys := by
  unfold marksOf at h
  unfold width
  cases hv : v.items? <;> cases hu : u.items? <;> rw [hv, hu] at h
  · exact ⟨rfl, (List.cons.inj h).2⟩
  · exact absurd (List.cons.inj h).1 (by decide)
  · exact absurd (List.cons.inj h).1 (by decide)
  · obtain ⟨hn, hrest⟩ := marks_append_inj h
    exact ⟨congrArg some hn, hrest⟩

/-- A character that is neither a sign nor a placeholder's is not where the marks of a value are. -/
theorem marksOf_append_ne {v : Value} {c : Char} (hc : isSign c = false) (hm : c ≠ '?')
    (xs ys : List Char) : marksOf v ++ xs ≠ c :: ys := by
  obtain ⟨d, ds, hv, hd⟩ := marksOf_eq_cons v
  rw [hv]
  intro h
  obtain rfl := (List.cons.inj h).1
  rcases hd with rfl | rfl
  · exact hm rfl
  · exact absurd hc (by decide)

/-- The first character of a leaf is written as it stands, or its first value as marks. -/
theorem fill_marks_cons {s : Quoting} {c : Char} {cs : List Char} {vs : List Value}
    (h : s.count (c :: cs) = vs.length) :
    (¬ s.Meets c ∧ (s.step c).count cs = vs.length ∧
      s.fill id (c :: cs) (vs.map marksOf) = c :: (s.step c).fill id cs (vs.map marksOf)) ∨
    (s.Meets c ∧ ∃ v us, vs = v :: us ∧ (s.step c).count cs = us.length ∧
      s.fill id (c :: cs) (vs.map marksOf) =
        marksOf v ++ (s.step c).fill id cs (us.map marksOf)) := by
  rw [count_cons] at h
  by_cases hm : s.Meets c
  · rw [if_pos hm] at h
    cases vs with
    | nil => rw [List.length_nil] at h; omega
    | cons v us =>
      rw [List.length_cons] at h
      exact .inr ⟨hm, v, us, rfl, by omega, by rw [List.map_cons, fill_cons, if_pos hm]⟩
  · rw [if_neg hm, Nat.zero_add] at h
    exact .inl ⟨hm, h, fill_cons_of_not_meets id hm _ _⟩

/-- The first character of a leaf is no sign, or it opens the marks of a sequence. -/
theorem fill_head {s : Quoting} {cs xs ys : List Char} {vs : List Value} {c : Char}
    (hn : s.count cs = vs.length) (hs : ∀ c ∈ cs, isSign c = false) (hne : cs ≠ [])
    (h : s.fill id cs (vs.map marksOf) ++ xs = c :: ys) : isSign c = false ∨ c = '(' := by
  obtain ⟨d, ds, rfl⟩ := List.exists_cons_of_ne_nil hne
  rcases fill_marks_cons hn with ⟨-, -, hfill⟩ | ⟨-, v, us, -, -, hfill⟩
  · rw [hfill] at h
    exact .inl ((List.cons.inj h).1 ▸ hs d List.mem_cons_self)
  · obtain ⟨e, es, hv, he⟩ := marksOf_eq_cons v
    rw [hfill, hv] at h
    obtain rfl := (List.cons.inj h).1
    rcases he with rfl | rfl
    · exact .inl rfl
    · exact .inr rfl

/-- A leaf does not begin like what comes after a condition. -/
theorem not_follows_fill {s : Quoting} {cs rest : List Char} {vs : List Value}
    (hn : s.count cs = vs.length) (hs : ∀ c ∈ cs, isSign c = false) (hne : cs ≠ [])
    (hr : Follows rest) : ¬ Follows (s.fill id cs (vs.map marksOf) ++ rest) := by
  obtain ⟨d, ds, rfl⟩ := List.exists_cons_of_ne_nil hne
  have hds : ∀ c ∈ ds, isSign c = false := fun c hc => hs c (List.mem_cons_of_mem d hc)
  rcases fill_marks_cons hn with ⟨-, hn, hfill⟩ | ⟨-, v, us, rfl, -, hfill⟩
  · rw [hfill, List.cons_append]
    rintro (h | ⟨c, xs, h, hc, hopen⟩)
    · exact List.cons_ne_nil _ _ h
    · obtain ⟨-, h⟩ := List.cons.inj h
      by_cases hd : ds = []
      · rw [hd, fill_nil, List.nil_append] at h
        rcases hr with hr | ⟨b, ys, hr, -, -⟩
        · exact List.cons_ne_nil _ _ (h.symm.trans hr)
        · obtain rfl := (List.cons.inj (h.symm.trans hr)).1
          exact absurd hc (by decide)
      · rcases fill_head hn hds hd h with hplain | hparen
        · rw [hplain] at hc
          contradiction
        · exact hopen hparen
  · rw [hfill, List.append_assoc]
    rintro (h | ⟨c, xs, h, -, -⟩)
    · obtain ⟨e, es, hv, -⟩ := marksOf_eq_cons v
      rw [hv] at h
      exact List.cons_ne_nil _ _ h
    · exact marksOf_append_ne (by decide) (by decide) _ _ h

/-- Two leaves with something after each are one text only if they are one leaf, with values that
are sequences of one length or single in the same places, and the same comes after them. -/
theorem fill_append_inj {s : Quoting} {cs ds rest rest' : List Char} {vs us : List Value}
    (hcs : ∀ c ∈ cs, isSign c = false) (hds : ∀ c ∈ ds, isSign c = false)
    (hvs : s.count cs = vs.length) (hus : s.count ds = us.length)
    (hr : Follows rest) (hr' : Follows rest')
    (h : s.fill id cs (vs.map marksOf) ++ rest = s.fill id ds (us.map marksOf) ++ rest') :
    cs = ds ∧ vs.map width = us.map width ∧ rest = rest' := by
  induction cs generalizing s ds vs us with
  | nil =>
    obtain rfl := List.eq_nil_of_length_eq_zero hvs.symm
    by_cases hd : ds = []
    · subst hd
      obtain rfl := List.eq_nil_of_length_eq_zero hus.symm
      exact ⟨rfl, rfl, by simpa using h⟩
    · rw [fill_nil, List.nil_append] at h
      exact absurd (h ▸ hr) (not_follows_fill hus hds hd hr')
  | cons c cs ih =>
    have hcs' : ∀ c ∈ cs, isSign c = false := fun d hd => hcs d (List.mem_cons_of_mem c hd)
    cases ds with
    | nil =>
      rw [fill_nil, List.nil_append] at h
      exact absurd (h ▸ hr') (not_follows_fill hvs hcs (List.cons_ne_nil c cs) hr)
    | cons d ds =>
      have hds' : ∀ c ∈ ds, isSign c = false := fun c hc => hds c (List.mem_cons_of_mem d hc)
      have hc := hcs c List.mem_cons_self
      have hd := hds d List.mem_cons_self
      rcases fill_marks_cons hvs with ⟨hm, hvs, hfill⟩ | ⟨hm, v, vs, rfl, hvs, hfill⟩ <;>
        rcases fill_marks_cons hus with ⟨hm', hus, hfill'⟩ | ⟨hm', u, us, rfl, hus, hfill'⟩ <;>
          rw [hfill, hfill'] at h
      · obtain ⟨rfl, h⟩ := List.cons.inj h
        obtain ⟨rfl, hw, hrest⟩ := ih hcs' hds' hvs hus h
        exact ⟨rfl, hw, hrest⟩
      · rw [List.append_assoc] at h
        exact absurd h.symm (marksOf_append_ne hc (fun he => hm ⟨hm'.1, he⟩) _ _)
      · rw [List.append_assoc] at h
        exact absurd h (marksOf_append_ne hd (fun he => hm' ⟨hm.1, he⟩) _ _)
      · rw [List.append_assoc, List.append_assoc] at h
        obtain ⟨hw, h⟩ := marksOf_append_inj h
        obtain rfl : c = d := hm.2.trans hm'.2.symm
        obtain ⟨rfl, hws, hrest⟩ := ih hcs' hds' hvs hus h
        exact ⟨rfl, by rw [List.map_cons, List.map_cons, hw, hws], hrest⟩

/-- Bound values are those of single values and sequences of known lengths in one way only. -/
theorem bound_append_inj {vs us as as' : List Value} (hw : vs.map width = us.map width)
    (h : List.Forall₂ R (vs.flatMap bound ++ as) (us.flatMap bound ++ as')) :
    List.Forall₂ (Value.Alike R) vs us ∧ List.Forall₂ R as as' := by
  induction vs generalizing us with
  | nil =>
    obtain rfl := List.map_eq_nil_iff.mp hw.symm
    exact ⟨.nil, h⟩
  | cons v vs ih =>
    cases us with
    | nil => contradiction
    | cons u us =>
      rw [List.map_cons, List.map_cons] at hw
      obtain ⟨hwidth, hws⟩ := List.cons.inj hw
      rw [List.flatMap_cons, List.flatMap_cons, List.append_assoc, List.append_assoc] at h
      unfold width at hwidth
      cases hv : v.items? <;> cases hu : u.items? <;> rw [hv, hu] at hwidth
      · simp only [bound, hv, hu] at h
        cases h with
        | cons hvu h =>
          obtain ⟨hvs, has⟩ := ih hws h
          exact ⟨.cons (.single hv hu hvu) hvs, has⟩
      · contradiction
      · contradiction
      · rename_i xs ys
        have hlen : xs.length = ys.length := Option.some.inj hwidth
        simp only [bound, hv, hu, Option.getD_some] at h
        have htake := List.forall₂_take xs.length h
        have hdrop := List.forall₂_drop xs.length h
        rw [List.take_left, hlen, List.take_left] at htake
        rw [List.drop_left, hlen, List.drop_left] at hdrop
        obtain ⟨hvs, has⟩ := ih hws hdrop
        exact ⟨.cons (.sequence hv hu htake) hvs, has⟩

/-! ### Trees -/

/-- With anything after it in the text and in the values, a condition is told from every other one
that could stand there. -/
def ReadsBack (R : Value → Value → Prop) (c : Condition) : Prop :=
  ∀ {d : Condition} {rest rest' : List Char} {as as' : List Value}, d.IsLegible →
    Follows rest → Follows rest' → c.text ++ rest = d.text ++ rest' →
    List.Forall₂ R (c.values ++ as) (d.values ++ as') →
    c.asWritten.Alike R d.asWritten ∧ rest = rest' ∧ List.Forall₂ R as as'

/-- A leaf does not begin like a group. -/
theorem fill_ne_group {cs xs ys : List Char} {vs : List Value}
    (hn : outside.count cs = vs.length) (hs : ∀ c ∈ cs, isSign c = false) (hne : cs ≠ []) :
    outside.fill id cs (vs.map marksOf) ++ xs ≠ '(' :: ' ' :: ys := by
  obtain ⟨d, ds, rfl⟩ := List.exists_cons_of_ne_nil hne
  intro h
  rcases fill_marks_cons hn with ⟨-, -, hfill⟩ | ⟨-, v, us, -, -, hfill⟩ <;> rw [hfill] at h
  · obtain rfl := (List.cons.inj h).1
    exact absurd (hs _ List.mem_cons_self) (by decide)
  · unfold marksOf at h
    split at h
    · rename_i items _
      obtain ⟨c, es, hmarks, hc⟩ := marks_eq_cons items.length
      rw [hmarks] at h
      exact hc (List.cons.inj (List.cons.inj h).2).1
    · exact absurd (List.cons.inj h).1 (by decide)

/-- The children of a group after its first one, up to the end of the group. -/
theorem children_readBack {cs ds : List (Combinator × Condition)}
    (hcs : ∀ child ∈ cs, ReadsBack R child.2) (hds : ∀ child ∈ ds, child.2.IsLegible)
    {rest rest' : List Char} {as as' : List Value}
    (h : textOfChildren false cs ++ ' ' :: ')' :: rest =
      textOfChildren false ds ++ ' ' :: ')' :: rest')
    (ha : List.Forall₂ R (valuesOfChildren cs ++ as) (valuesOfChildren ds ++ as')) :
    List.Forall₂ (fun x y => x.1 = y.1 ∧ x.2.Alike R y.2) (childrenAsWritten false cs)
        (childrenAsWritten false ds) ∧ rest = rest' ∧ List.Forall₂ R as as' := by
  -- a joiner is no end of a group
  have hend : ∀ (k : Combinator) (xs ys : List Char),
      (joiner k).toList ++ xs ≠ ' ' :: ')' :: ys := by
    intro k xs ys
    cases k <;> simp [joiner]
  induction cs generalizing ds with
  | nil =>
    cases ds with
    | nil => exact ⟨.nil, (List.cons.inj (List.cons.inj h).2).2, ha⟩
    | cons y ds =>
      obtain ⟨l, d⟩ := y
      rw [textOfChildren_cons, List.append_assoc, List.append_assoc] at h
      exact absurd h.symm (hend l _ _)
  | cons x cs ih =>
    obtain ⟨k, c⟩ := x
    cases ds with
    | nil =>
      rw [textOfChildren_cons, List.append_assoc, List.append_assoc] at h
      exact absurd h (hend k _ _)
    | cons y ds =>
      obtain ⟨l, d⟩ := y
      rw [textOfChildren_cons, textOfChildren_cons] at h
      simp only [Bool.false_eq_true, ↓reduceIte, List.append_assoc] at h
      obtain ⟨rfl, htexts⟩ := joiner_append_inj h
      rw [valuesOfChildren, valuesOfChildren, List.append_assoc, List.append_assoc] at ha
      obtain ⟨hcd, h, ha⟩ := hcs (k, c) List.mem_cons_self (hds (k, d) List.mem_cons_self)
        (follows_children cs rest) (follows_children ds rest') htexts ha
      obtain ⟨hchildren, hrest, has⟩ := ih (fun z hz => hcs z (List.mem_cons_of_mem _ hz))
        (fun z hz => hds z (List.mem_cons_of_mem _ hz)) h ha
      exact ⟨.cons ⟨rfl, hcd⟩ hchildren, hrest, has⟩

theorem Alike.of_forall₂ {cs ds : List (Combinator × Condition)}
    (h : List.Forall₂ (fun x y => x.1 = y.1 ∧ x.2.Alike R y.2) cs ds) :
    (Condition.group cs).Alike R (Condition.group ds) := by
  refine .group ?_ fun x y hxy => (List.forall₂_zip h hxy).2
  induction h with
  | nil => rfl
  | cons hxy _ ih => rw [List.map_cons, List.map_cons, hxy.1, ih]

/-- A group is told by its parentheses and read child by child. -/
theorem group_readsBack {cs : List (Combinator × Condition)} (hne : cs ≠ [])
    (hcs : ∀ child ∈ cs, ReadsBack R child.2) : ReadsBack R (group cs) := by
  intro d rest rest' as as' hd _ _ h ha
  rw [text_group, List.cons_append, List.cons_append] at h
  cases hd with
  | leaf hl hne hs =>
    rw [text_leaf] at h
    have hne : _ ≠ [] := fun hnil => hne (String.toList_eq_nil_iff.mp hnil)
    exact absurd h.symm (fill_ne_group hl.count_eq hs hne)
  | @group ds hne' hds =>
    obtain ⟨⟨k, c⟩, cs, rfl⟩ := List.exists_cons_of_ne_nil hne
    obtain ⟨⟨l, d⟩, ds, rfl⟩ := List.exists_cons_of_ne_nil hne'
    rw [text_group, List.cons_append, List.cons_append] at h
    have h := (List.cons.inj (List.cons.inj h).2).2
    rw [textOfChildren_cons, textOfChildren_cons] at h
    simp only [↓reduceIte, List.append_assoc] at h
    rw [values, values, valuesOfChildren, valuesOfChildren, List.append_assoc,
      List.append_assoc] at ha
    obtain ⟨hcd, h, ha⟩ := hcs (k, c) List.mem_cons_self (hds (l, d) List.mem_cons_self)
      (follows_children cs rest) (follows_children ds rest') h ha
    obtain ⟨hchildren, hrest, has⟩ := children_readBack
      (fun z hz => hcs z (List.mem_cons_of_mem _ hz))
      (fun z hz => hds z (List.mem_cons_of_mem _ hz)) h ha
    exact ⟨.of_forall₂ (.cons ⟨rfl, hcd⟩ hchildren), hrest, has⟩

theorem IsLegible.readsBack {c : Condition} (h : c.IsLegible) : ReadsBack R c := by
  induction h with
  | @leaf sql vs hl hne hs =>
    have hne : sql.toList ≠ [] := fun hnil => hne (String.toList_eq_nil_iff.mp hnil)
    intro d rest rest' as as' hd hr hr' h ha
    rw [text_leaf] at h
    cases hd with
    | @leaf sql' us hl' hne' hs' =>
      rw [text_leaf] at h
      obtain ⟨hsql, hw, hrest⟩ :=
        fill_append_inj hs hs' hl.count_eq hl'.count_eq hr hr' h
      obtain ⟨hvs, has⟩ := bound_append_inj hw ha
      obtain rfl := String.toList_inj.mp hsql
      exact ⟨.leaf hvs, hrest, has⟩
    | group _ _ =>
      rw [text_group] at h
      exact absurd h (fill_ne_group hl.count_eq hs hne)
  | group hne _ ih => exact group_readsBack hne ih

/-- Legible trees compile to one text, with related values in the same places, exactly when they are
alike as written. -/
theorem render_alike_iff (R : Value → Value → Prop) {c d : Condition} (hc : c.IsLegible)
    (hd : d.IsLegible) : (∃ b b', c.render = .ok b ∧ d.render = .ok b' ∧ b.Alike R b') ↔
      c.asWritten.Alike R d.asWritten := by
  obtain ⟨b, hb, htext, hargs⟩ := hc.treeOf.render_text
  obtain ⟨b', hb', htext', hargs'⟩ := hd.treeOf.render_text
  constructor
  · rintro ⟨e, e', he, he', hsql, hrel⟩
    obtain rfl := Except.ok.inj (hb.symm.trans he)
    obtain rfl := Except.ok.inj (hb'.symm.trans he')
    rw [hargs, hargs'] at hrel
    have hsame : c.text ++ [] = d.text ++ [] := by rw [← htext, ← htext', hsql]
    have hvalues : List.Forall₂ R (c.values ++ []) (d.values ++ []) := by
      rwa [List.append_nil, List.append_nil]
    exact (hc.readsBack hd (.inl rfl) (.inl rfl) hsame hvalues).1
  · intro h
    have hrel := h.render
    rw [render_asWritten, render_asWritten, hb, hb'] at hrel
    cases hrel with
    | ok hrel => exact ⟨b, b', hb, hb', hrel⟩

/-- A leaf with a sequence and a group in a group, with combinators that are not written. -/
def nestedTree (first inner : Combinator) (ids : Value) : Condition :=
  .group [(first, .leaf " id IN ? " [ids]), (.or, .group [(inner, .leaf "'?' = ?" [.int 3])])]

theorem nestedTree_isLegible (first inner : Combinator) {ids : Value} (h : ids.items? ≠ some []) :
    (nestedTree first inner ids).IsLegible := by
  have hone : (placeholders " id IN ? ").length = 1 := by decide +kernel
  have hsigns : ∀ sql : String, sql.toList.any isSign = false → ∀ c ∈ sql.toList, isSign c = false :=
    fun sql h c hc => Bool.eq_false_iff.mpr (List.any_eq_false.mp h c hc)
  refine .group (List.cons_ne_nil _ _) fun child hc => ?_
  simp only [List.mem_cons, List.not_mem_nil, or_false] at hc
  rcases hc with rfl | rfl
  · refine .leaf (isLeaf_iff.mpr ⟨hone, ?_⟩) (by decide) (hsigns _ (by decide))
    intro v hv
    rwa [List.mem_singleton.mp hv]
  · refine .group (List.cons_ne_nil _ _) fun child hc => ?_
    obtain rfl := List.mem_singleton.mp hc
    have hleaf : IsLeaf "'?' = ?" [.int 3] :=
      isLeaf_iff.mpr ⟨by decide +kernel, by simp [Value.items?]⟩
    exact .leaf hleaf (by decide) (hsigns _ (by decide))

theorem nestedTree_render_alike :
    (nestedTree .and .xor (.list [.int 1, .int 2])).IsLegible ∧
      (nestedTree .or .and (.tuple [.int 1, .int 2])).IsLegible ∧
      (∃ b b', (nestedTree .and .xor (.list [.int 1, .int 2])).render = .ok b ∧
        (nestedTree .or .and (.tuple [.int 1, .int 2])).render = .ok b' ∧ b.Alike Eq b') ∧
      (nestedTree .and .xor (.list [.int 1, .int 2])).asWritten.Alike Eq
        (nestedTree .or .and (.tuple [.int 1, .int 2])).asWritten := by
  have hlist : (nestedTree .and .xor (.list [.int 1, .int 2])).IsLegible :=
    nestedTree_isLegible _ _ (by simp [Value.items?])
  have htuple : (nestedTree .or .and (.tuple [.int 1, .int 2])).IsLegible :=
    nestedTree_isLegible _ _ (by simp [Value.items?])
  have hsame : ∃ b b', (nestedTree .and .xor (.list [.int 1, .int 2])).render = .ok b ∧
      (nestedTree .or .and (.tuple [.int 1, .int 2])).render = .ok b' ∧ b.Alike Eq b' :=
    ⟨_, _, rfl, rfl, rfl, List.forall₂_eq_eq_eq ▸ rfl⟩
  exact ⟨hlist, htuple, hsame, (render_alike_iff Eq hlist htuple).mp hsame⟩

end RowQuery.Condition
