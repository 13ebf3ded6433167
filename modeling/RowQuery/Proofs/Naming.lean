import RowQuery.Condition.Spelling
import RowQuery.Proofs.AsciiClasses
import RowQuery.Proofs.Scan
import Mathlib.Data.List.DropRight

/-! The names of combinators. A name is the combinator's word with its ASCII letters in any case and
blanks around it: no other character has one of these letters for its small form, so the full case
mapping finds no further names. A name holds no placeholder. -/

namespace RowQuery

namespace Text

/-! ### Trimming -/

/-- A text without blanks at its ends stays when blanks around it are dropped. -/
theorem trimChars_between {before word after : List Char} (hb : ∀ c ∈ before, isBlank c = true)
    (hw : ∀ c ∈ word, isBlank c = false) (ha : ∀ c ∈ after, isBlank c = true) :
    trimChars (before ++ word ++ after) = word := by
  have hend : ∀ w : List Char, (∀ c ∈ w, isBlank c = false) → w.dropWhile isBlank = w := by
    intro w h
    cases w with
    | nil => rfl
    | cons c w => rw [List.dropWhile_cons_of_neg (by simp [h c List.mem_cons_self])]
  have hleft : ∀ bs w : List Char, (∀ c ∈ bs, isBlank c = true) →
      (bs ++ w).dropWhile isBlank = w.dropWhile isBlank := by
    intro bs w h
    rw [List.dropWhile_append, List.dropWhile_eq_nil_iff.mpr h]
    rfl
  have hr : ∀ c ∈ word.reverse, isBlank c = false := fun c hc => hw c (List.mem_reverse.mp hc)
  have hra : ∀ c ∈ after.reverse, isBlank c = true := fun c hc => ha c (List.mem_reverse.mp hc)
  rcases word with _ | ⟨c, cs⟩
  · have hall : ∀ d ∈ before ++ after, isBlank d = true := fun d hd =>
      (List.mem_append.mp hd).elim (hb d) (ha d)
    rw [trimChars, stripChars, List.append_nil, List.dropWhile_eq_nil_iff.mpr hall]
    rfl
  · have hf : ((c :: cs) ++ after).dropWhile isBlank = (c :: cs) ++ after :=
      List.dropWhile_cons_of_neg (by simp [hw c List.mem_cons_self])
    rw [trimChars, stripChars, List.append_assoc, hleft _ _ hb, hf, List.reverse_append,
      hleft _ _ hra, hend _ hr, List.reverse_reverse]

/-- What is dropped around a trimmed text is blank. -/
theorem exists_trimChars (cs : List Char) : ∃ before after,
    cs = before ++ trimChars cs ++ after ∧ (∀ c ∈ before, isBlank c = true) ∧
      ∀ c ∈ after, isBlank c = true := by
  have hrest := List.takeWhile_append_dropWhile (p := isBlank)
    (l := (cs.dropWhile isBlank).reverse)
  have hsplit := List.takeWhile_append_dropWhile (p := isBlank) (l := cs)
  refine ⟨cs.takeWhile isBlank, ((cs.dropWhile isBlank).reverse.takeWhile isBlank).reverse, ?_,
    fun c hc => List.mem_takeWhile_imp hc, fun c hc => ?_⟩
  · rw [trimChars, stripChars, List.append_assoc, ← List.reverse_append, hrest,
      List.reverse_reverse, hsplit]
  · exact List.mem_takeWhile_imp (List.mem_reverse.mp hc)

/-- What is left after trimming begins and ends with a character that stays. -/
theorem stripChars_stripChars (p : Char → Bool) (cs : List Char) :
    stripChars p (stripChars p cs) = stripChars p cs := by
  have hr : stripChars p cs = (cs.dropWhile p).rdropWhile p := rfl
  have hl : (stripChars p cs).dropWhile p = stripChars p cs := by
    rw [List.dropWhile_eq_self_iff]
    intro hpos
    have hpre : stripChars p cs <+: cs.dropWhile p := hr ▸ List.rdropWhile_prefix p _
    have hlen : 0 < (cs.dropWhile p).length := Nat.lt_of_lt_of_le hpos hpre.length_le
    rw [hpre.getElem hpos]
    exact List.dropWhile_get_zero_not p cs hlen
  calc
    _ = ((stripChars p cs).dropWhile p).rdropWhile p := rfl
    _ = ((cs.dropWhile p).rdropWhile p).rdropWhile p := by rw [hl, hr]
    _ = _ := List.rdropWhile_idempotent p _

theorem trim_trim (s : String) : trim (trim s) = trim s := by
  rw [trim, trim, String.toList_ofList, trimChars, trimChars, stripChars_stripChars]

/-! ### Case -/

/-- A number is that of its character, or else it is none and stands for the first one. -/
theorem toNat_ofNat_or (n : Nat) : (Char.ofNat n).toNat = n ∨ Char.ofNat n = Char.ofNat 0 := by
  by_cases hv : n.isValidChar
  · left
    rw [Char.ofNat, dif_pos hv]
    rfl
  · right
    rw [Char.ofNat, dif_neg hv]
    rfl

theorem runLookup_eq_some {runs : List (Nat × Nat × Nat × Int)} {n m : Nat}
    (h : runLookup runs n = some m) :
    ∃ r ∈ runs, r.1 ≤ n ∧ n ≤ r.2.1 ∧ m = (Int.ofNat n + r.2.2.2).toNat := by
  obtain ⟨r, hr, rfl⟩ := Option.map_eq_some_iff.mp h
  have hp := List.find?_some hr
  simp only [Bool.and_eq_true, decide_eq_true_eq] at hp
  exact ⟨r, List.mem_of_find?_eq_some hr, hp.1.1, hp.1.2, rfl⟩

/-- A small letter that only ASCII characters have for a small form: the letters i and k have
others. -/
def IsPlainLetter (c : Char) : Prop := c.isLower = true ∧ c ≠ 'i' ∧ c ≠ 'k'

instance (c : Char) : Decidable (IsPlainLetter c) := inferInstanceAs (Decidable (_ ∧ _))

theorem IsPlainLetter.ascii {c : Char} (h : IsPlainLetter c) : c.toNat < 128 :=
  Nat.lt_of_le_of_lt (isLower_iff.mp h.1).2 (by decide)

theorem lowerRuns_high : ∀ r ∈ lowerRuns,
    128 ≤ Int.ofNat r.1 + r.2.2.2 ∨ (r.1 = r.2.1 ∧ Int.ofNat r.1 + r.2.2.2 = 107) := by
  decide +kernel

theorem runLookup_lowerRuns {n m : Nat} (h : runLookup lowerRuns n = some m) :
    128 ≤ m ∨ m = 107 := by
  obtain ⟨r, hr, hle, hge, rfl⟩ := runLookup_eq_some h
  rcases lowerRuns_high r hr with hhigh | ⟨heq, hk⟩
  · left
    simp only [Int.ofNat_eq_natCast] at hhigh ⊢
    omega
  · right
    simp only [Int.ofNat_eq_natCast] at hk ⊢
    omega

theorem not_isPlainLetter_ofNat {n : Nat} (h : 128 ≤ n ∨ n = 107) :
    ¬ IsPlainLetter (Char.ofNat n) := by
  rcases h with h | rfl
  · intro hp
    rcases toNat_ofNat_or n with ht | hz
    · have := hp.ascii
      omega
    · rw [hz] at hp
      exact absurd hp (by decide)
  · decide

/-- The small form holds a plain letter only when it is that of an ASCII character. -/
theorem lowerChar_of_isPlainLetter {before after : List Char} {c d : Char}
    (hd : d ∈ lowerChar before c after) (hp : IsPlainLetter d) : c.toNat < 128 := by
  by_contra hc
  rw [lowerChar, if_neg hc] at hd
  split_ifs at hd
  · rcases List.mem_cons.mp hd with rfl | hd
    · exact absurd hp (by decide)
    · obtain rfl := List.mem_singleton.mp hd
      exact absurd hp (by decide)
  · obtain rfl := List.mem_singleton.mp hd
    exact absurd hp (by decide)
  · obtain rfl := List.mem_singleton.mp hd
    exact absurd hp (by decide)
  · obtain rfl := List.mem_singleton.mp hd
    refine not_isPlainLetter_ofNat ?_ hp
    cases hm : runLookup lowerRuns c.toNat with
    | none => exact .inl (Nat.le_of_not_lt hc)
    | some m => exact runLookup_lowerRuns hm

theorem lowerChars_of_ascii {cs : List Char} (h : ∀ c ∈ cs, c.toNat < 128) (before : List Char) :
    lowerChars before cs = cs.map Char.toLower := by
  induction cs generalizing before with
  | nil => rfl
  | cons c cs ih =>
    rw [lowerChars, lowerChar, if_pos (h c List.mem_cons_self),
      ih (fun d hd => h d (List.mem_cons_of_mem c hd))]
    rfl

/-- A text whose small form has only plain letters is ASCII. -/
theorem ascii_of_lowerChars {before cs : List Char}
    (h : ∀ d ∈ lowerChars before cs, IsPlainLetter d) : ∀ c ∈ cs, c.toNat < 128 := by
  induction cs generalizing before with
  | nil => exact fun _ hc => absurd hc List.not_mem_nil
  | cons c cs ih =>
    rw [lowerChars] at h
    intro d hd
    rcases List.mem_cons.mp hd with rfl | hd
    · obtain ⟨e, he⟩ : ∃ e, e ∈ lowerChar before d cs := by
        unfold lowerChar
        split_ifs <;> exact ⟨_, List.mem_cons_self⟩
      exact lowerChar_of_isPlainLetter he (h e (List.mem_append_left _ he))
    · exact ih (fun e he => h e (List.mem_append_right _ he)) d hd

/-- A character with a plain letter for its small form is a letter, and so no blank and nothing that
is met in a scan for placeholders. -/
theorem letter_of_toLower {c : Char} (h : IsPlainLetter c.toLower) :
    isBlank c = false ∧ c.toNat < 128 ∧ Sql.isQuote c = false ∧ c ≠ '?' := by
  have hr : (65 ≤ c.toNat ∧ c.toNat ≤ 90) ∨ (97 ≤ c.toNat ∧ c.toNat ≤ 122) := by
    by_cases hu : c.isUpper = true
    · exact .inl (isUpper_iff.mp hu)
    · exact .inr (isLower_iff.mp (toLower_of_not_isUpper hu ▸ h.1))
  refine ⟨?_, by omega, ?_, ?_⟩
  · simp only [isBlank, Bool.or_eq_false_iff, Bool.and_eq_false_iff, decide_eq_false_iff_not,
      beq_eq_false_iff_ne]
    omega
  · rw [Bool.eq_false_iff]
    intro hq
    rcases Sql.isQuote_iff.mp hq with rfl | rfl | rfl <;> revert hr <;> decide
  · rintro rfl
    revert hr
    decide

/-- For a word of plain letters, the small form by the full mapping is that by ASCII letters. -/
theorem lowerChars_eq_iff {cs word : List Char} (hw : ∀ c ∈ word, IsPlainLetter c) :
    lowerChars [] cs = word ↔ cs.map Char.toLower = word := by
  constructor
  · rintro rfl
    exact (lowerChars_of_ascii (ascii_of_lowerChars hw) []).symm
  · rintro rfl
    refine lowerChars_of_ascii (fun c hc => ?_) []
    exact (letter_of_toLower (hw c.toLower (List.mem_map_of_mem hc))).2.1

end Text

namespace Combinator

open Text

/-- A value is a name of a combinator: its word with every letter in either case, between blanks. -/
def Named (name : Value) (k : Combinator) : Prop :=
  ∃ before word after : List Char, name = .text (String.ofList (before ++ word ++ after)) ∧
    (∀ c ∈ before, isBlank c = true) ∧ (∀ c ∈ after, isBlank c = true) ∧
    word.map Char.toLower = k.word.toList

theorem isPlainLetter_word (k : Combinator) : ∀ c ∈ k.word.toList, IsPlainLetter c := by
  cases k <;> simp [word, IsPlainLetter]

theorem ofName?_text {s : String} {k : Combinator} :
    ofName? (.text s) = some k ↔ lower (trim s) = k.word := by
  simp only [ofName?]
  generalize lower (trim s) = name
  constructor
  · intro h
    split_ifs at h with ha ho hx
    · rw [ha, ← Option.some.inj h, word]
    · rw [ho, ← Option.some.inj h, word]
    · rw [hx, ← Option.some.inj h, word]
  · rintro rfl
    cases k <;> rfl

/-- A value is read as a combinator exactly when it is one of its names. -/
theorem ofName?_eq_some_iff {name : Value} {k : Combinator} :
    ofName? name = some k ↔ Named name k := by
  have hword : ∀ s : String, ofName? (.text s) = some k ↔
      lowerChars [] (trimChars s.toList) = k.word.toList := by
    intro s
    have hs : (lower (trim s)).toList = lowerChars [] (trimChars s.toList) := by
      simp only [lower, trim, String.toList_ofList]
    rw [ofName?_text, ← String.toList_inj, hs]
  constructor
  · intro h
    cases name with
    | text s =>
      obtain ⟨before, after, hs, hb, ha⟩ := exists_trimChars s.toList
      refine ⟨before, trimChars s.toList, after, ?_, hb, ha, ?_⟩
      · rw [← hs, String.ofList_toList]
      · exact (lowerChars_eq_iff (isPlainLetter_word k)).mp ((hword s).mp h)
    | _ => contradiction
  · rintro ⟨before, word, after, rfl, hb, ha, hw⟩
    have hl : ∀ c ∈ word, isBlank c = false := fun c hc =>
      (letter_of_toLower (isPlainLetter_word k _ (hw ▸ List.mem_map_of_mem hc))).1
    rw [hword, String.toList_ofList, trimChars_between hb hl ha]
    exact (lowerChars_eq_iff (isPlainLetter_word k)).mpr hw

/-- A name of a combinator holds no placeholder. -/
theorem Named.placeholders_eq {s : String} {k : Combinator} (h : Named (.text s) k) :
    Sql.placeholders s = [] := by
  obtain ⟨before, word, after, hs, hb, ha, hw⟩ := h
  obtain rfl := Value.text.inj hs
  have hblank : ∀ c, isBlank c = true → Sql.isQuote c = false ∧ c ≠ '?' := by
    intro c hc
    constructor
    · rw [Bool.eq_false_iff]
      intro hq
      rcases Sql.isQuote_iff.mp hq with rfl | rfl | rfl <;> revert hc <;> decide
    · rintro rfl
      revert hc
      decide
  have hchars : ∀ c ∈ before ++ word ++ after, Sql.isQuote c = false ∧ c ≠ '?' := by
    intro c hc
    rcases List.mem_append.mp hc with hc | hc
    · rcases List.mem_append.mp hc with hc | hc
      · exact hblank c (hb c hc)
      · have hl := isPlainLetter_word k _ (hw ▸ List.mem_map_of_mem hc)
        exact (letter_of_toLower hl).2.2
    · exact hblank c (ha c hc)
  refine List.eq_nil_of_length_eq_zero ?_
  rw [Sql.length_placeholders, String.toList_ofList]
  exact (Sql.Binds.of_forall hchars).count_eq

end Combinator

end RowQuery
