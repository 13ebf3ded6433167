/-!
Cutting a text at a separator and joining parts with one. A cut text has one part more than it has
separators, and joining the parts with the separator gives it back.
-/

namespace RowQuery.Text

/-- The parts of a text between the occurrences of `sep`; never the empty list. -/
def splitChars (sep : Char) : List Char → List (List Char)
  | [] => [[]]
  | c :: cs =>
    if c = sep then [] :: splitChars sep cs
    else match splitChars sep cs with
      | [] => [[c]]
      | part :: parts => (c :: part) :: parts

def split (sep : Char) (s : String) : List String := (splitChars sep s.toList).map String.ofList

/-- The text before the first `sep`, and the text after it when there is one. -/
def cutChars (sep : Char) : List Char → List Char × Option (List Char)
  | [] => ([], none)
  | c :: cs =>
    if c = sep then ([], some cs)
    else ((c :: (cutChars sep cs).1), (cutChars sep cs).2)

/-- The text before the last `sep` when there is one, and the text after it. -/
def cutLastChars (sep : Char) (cs : List Char) : Option (List Char) × List Char :=
  match cutChars sep cs.reverse with
  | (last, none) => (none, last.reverse)
  | (last, some first) => (some first.reverse, last.reverse)

section Cutting

variable {sep : Char} {cs ds : List Char}

/-- A text without `sep` stays before the cut. -/
theorem cutChars_append (h : sep ∉ cs) (ds : List Char) :
    cutChars sep (cs ++ ds) = (cs ++ (cutChars sep ds).1, (cutChars sep ds).2) := by
  induction cs with
  | nil => rfl
  | cons c cs ih =>
    have hc : c ≠ sep := fun he => h (he ▸ List.mem_cons_self)
    have hcs : sep ∉ cs := fun hmem => h (List.mem_cons_of_mem c hmem)
    rw [List.cons_append, cutChars, if_neg hc, ih hcs]
    rfl

theorem cutChars_of_not_mem (h : sep ∉ cs) : cutChars sep cs = (cs, none) := by
  have hcut := cutChars_append h []
  rwa [List.append_nil, cutChars, List.append_nil] at hcut

theorem cutChars_append_cons (h : sep ∉ cs) (ds : List Char) :
    cutChars sep (cs ++ sep :: ds) = (cs, some ds) := by
  rw [cutChars_append h, cutChars, if_pos rfl, List.append_nil]

theorem splitChars_append_cons (h : sep ∉ cs) (ds : List Char) :
    splitChars sep (cs ++ sep :: ds) = cs :: splitChars sep ds := by
  induction cs with
  | nil => rw [List.nil_append, splitChars, if_pos rfl]
  | cons c cs ih =>
    have hc : c ≠ sep := fun he => h (he ▸ List.mem_cons_self)
    have hcs : sep ∉ cs := fun hmem => h (List.mem_cons_of_mem c hmem)
    rw [List.cons_append, splitChars, if_neg hc, ih hcs]

theorem cutLastChars_append_cons (cs : List Char) (h : sep ∉ ds) :
    cutLastChars sep (cs ++ sep :: ds) = (some cs, ds) := by
  have hr : (cs ++ sep :: ds).reverse = ds.reverse ++ sep :: cs.reverse := by simp
  rw [cutLastChars, hr, cutChars_append_cons (mt List.mem_reverse.mp h)]
  simp

theorem cutChars_sublist (sep : Char) (cs : List Char) : (cutChars sep cs).1.Sublist cs := by
  induction cs with
  | nil => exact .slnil
  | cons c cs ih =>
    rw [cutChars]
    by_cases hc : c = sep
    · rw [if_pos hc]
      exact List.nil_sublist _
    · rw [if_neg hc]
      exact ih.cons_cons c

theorem not_mem_cutChars (sep : Char) (cs : List Char) : sep ∉ (cutChars sep cs).1 := by
  induction cs with
  | nil => exact List.not_mem_nil
  | cons c cs ih =>
    rw [cutChars]
    by_cases hc : c = sep
    · rw [if_pos hc]
      exact List.not_mem_nil
    · rw [if_neg hc, List.mem_cons, not_or]
      exact ⟨fun he => hc he.symm, ih⟩

end Cutting

/-- The parts one after another, with `sep` between neighbours. -/
def join (sep : String) : List String → String
  | [] => ""
  | [s] => s
  | s :: rest => s ++ sep ++ join sep rest

end RowQuery.Text
