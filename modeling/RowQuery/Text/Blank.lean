/-!
Blank characters and trimming. A trimmed text has no blank at either end, and trimming keeps the
text between the first and the last character that is not blank.
-/

namespace RowQuery.Text

/-- White space of any script, the four separators U+001C to U+001F among it. -/
def isBlank (c : Char) : Bool :=
  let n := c.toNat
  (9 ≤ n && n ≤ 13) || (28 ≤ n && n ≤ 32) || n == 0x85 || n == 0xA0 || n == 0x1680 ||
    (0x2000 ≤ n && n ≤ 0x200A) || n == 0x2028 || n == 0x2029 || n == 0x202F || n == 0x205F ||
    n == 0x3000

/-- Drops every character of a class from both ends. -/
def stripChars (p : Char → Bool) (cs : List Char) : List Char :=
  ((cs.dropWhile p).reverse.dropWhile p).reverse

theorem stripChars_of_forall {p : Char → Bool} {cs : List Char} (h : ∀ c ∈ cs, p c = false) :
    stripChars p cs = cs := by
  have hdrop : ∀ ds : List Char, (∀ c ∈ ds, p c = false) → ds.dropWhile p = ds := by
    intro ds hds
    cases ds with
    | nil => rfl
    | cons d ds => exact List.dropWhile_cons_of_neg (by simp [hds d List.mem_cons_self])
  rw [stripChars, hdrop cs h, hdrop cs.reverse fun c hc => h c (List.mem_reverse.mp hc),
    List.reverse_reverse]

theorem stripChars_cons_of_pos {p : Char → Bool} {c : Char} {cs : List Char} (h : p c = true) :
    stripChars p (c :: cs) = stripChars p cs := by
  rw [stripChars, stripChars, List.dropWhile_cons_of_pos h]

theorem stripChars_sublist (p : Char → Bool) (cs : List Char) : (stripChars p cs).Sublist cs := by
  have h := ((cs.dropWhile p).reverse.dropWhile_sublist p).reverse
  rw [List.reverse_reverse] at h
  exact h.trans (cs.dropWhile_sublist p)

def trimChars (cs : List Char) : List Char := stripChars isBlank cs

def trim (s : String) : String := String.ofList (trimChars s.toList)

/-- The four separators U+001C to U+001F. -/
def isSeparator (c : Char) : Bool := 28 ≤ c.toNat && c.toNat ≤ 31

/-- The characters of a number, without the blanks around it. Separators are no blanks there. -/
def trimNumber (cs : List Char) : List Char := stripChars (fun c => isBlank c && !isSeparator c) cs

/-- The text up to the first blank after the leading ones; empty when there is no word. -/
def firstWord (s : String) : String :=
  String.ofList ((s.toList.dropWhile isBlank).takeWhile fun c => !isBlank c)

end RowQuery.Text
