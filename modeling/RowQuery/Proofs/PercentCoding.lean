import RowQuery.Proofs.AsciiClasses
import Mathlib.Algebra.Order.BigOperators.Group.List
import Mathlib.Tactic.IntervalCases

/-! Percent coding of texts. What is encoded consists of unreserved characters and percent signs,
and decoding gives every text back. Decoding shortens a text that holds an escape, a percent sign
before two hexadecimal digits, and leaves every other text as it is. -/

namespace RowQuery.Text

/-! ### UTF-8 -/

section Utf8

variable {n : Nat} {p : Pending}

theorem toNat_byte (hn : n < 256) : (UInt8.ofNat n).toNat = n := by
  rw [UInt8.toNat_ofNat', Nat.mod_eq_of_lt hn]

/-- A byte that starts a character of several bytes yields nothing yet. -/
theorem decodeFrom_start (hn : 0x80 ≤ n ∧ n < 256) (hp : Pending.start? n = some p)
    (bs : List UInt8) : decodeFrom none (UInt8.ofNat n :: bs) = decodeFrom (some p) bs := by
  have hs : decodeStart n = ([], some p) := by rw [decodeStart, if_neg (by omega), hp]
  rw [decodeFrom, toNat_byte hn.2, hs]
  rfl

/-- The last byte of a character completes it. -/
theorem decodeFrom_last {low high value : Nat} (hn : low ≤ n ∧ n ≤ high) (hb : n < 256)
    (bs : List UInt8) : decodeFrom (some ⟨1, low, high, value⟩) (UInt8.ofNat n :: bs) =
      Char.ofNat (value * 64 + (n - 0x80)) :: decodeFrom none bs := by
  rw [decodeFrom]
  simp only [toNat_byte hb, if_pos hn, Nat.le_refl, if_true]

/-- Each byte before the last adds six bits. -/
theorem decodeFrom_next {owed low high value : Nat} (hn : low ≤ n ∧ n ≤ high) (hb : n < 256)
    (bs : List UInt8) : decodeFrom (some ⟨owed + 2, low, high, value⟩) (UInt8.ofNat n :: bs) =
      decodeFrom (some ⟨owed + 1, 0x80, 0xBF, value * 64 + (n - 0x80)⟩) bs := by
  have ho : ¬ owed + 2 ≤ 1 := by omega
  rw [decodeFrom]
  simp only [toNat_byte hb, if_pos hn, if_neg ho]
  rfl

theorem start?_two (hn : 0x80 ≤ n ∧ n < 0x800) :
    Pending.start? (0xC0 + n / 64) = some ⟨1, 0x80, 0xBF, n / 64⟩ := by
  rw [Pending.start?, if_pos (by omega), Nat.add_sub_cancel_left]

/-- The first of three bytes leaves an interval for the second that holds it: surrogates and
numbers that need fewer bytes are out. -/
theorem start?_three (hn : 0x800 ≤ n ∧ n < 0x10000) (hs : n < 0xD800 ∨ 0xDFFF < n) :
    ∃ low high, Pending.start? (0xE0 + n / 4096) = some ⟨2, low, high, n / 4096⟩ ∧
      low ≤ 0x80 + n / 64 % 64 ∧ 0x80 + n / 64 % 64 ≤ high := by
  by_cases h0 : n / 4096 = 0
  · rw [h0]
    exact ⟨0xA0, 0xBF, rfl, by omega, by omega⟩
  by_cases hd : n / 4096 = 0xD
  · rw [hd]
    exact ⟨0x80, 0x9F, rfl, by omega, by omega⟩
  · refine ⟨0x80, 0xBF, ?_, by omega, by omega⟩
    rw [Pending.start?, if_neg (by omega), if_neg (by omega), if_neg (by omega), if_pos (by omega),
      Nat.add_sub_cancel_left]

theorem start?_four (hn : 0x10000 ≤ n ∧ n < 0x110000) :
    ∃ low high, Pending.start? (0xF0 + n / 262144) = some ⟨3, low, high, n / 262144⟩ ∧
      low ≤ 0x80 + n / 4096 % 64 ∧ 0x80 + n / 4096 % 64 ≤ high := by
  by_cases h0 : n / 262144 = 0
  · rw [h0]
    exact ⟨0x90, 0xBF, rfl, by omega, by omega⟩
  by_cases h4 : n / 262144 = 4
  · rw [h4]
    exact ⟨0x80, 0x8F, rfl, by omega, by omega⟩
  · refine ⟨0x80, 0xBF, ?_, by omega, by omega⟩
    rw [Pending.start?, if_neg (by omega), if_neg (by omega), if_neg (by omega), if_neg (by omega),
      if_neg (by omega), if_pos (by omega), Nat.add_sub_cancel_left]

/-- Decoding reads one encoded character at a time. -/
theorem decodeFrom_encodeChar (c : Char) (bs : List UInt8) :
    decodeFrom none (encodeChar c ++ bs) = c :: decodeFrom none bs := by
  obtain ⟨n, hn⟩ : ∃ n, c.toNat = n := ⟨_, rfl⟩
  have hvalid : n < 0xD800 ∨ (0xDFFF < n ∧ n < 0x110000) := hn ▸ c.valid
  have hc : ∀ m, m = n → Char.ofNat m = c := by
    rintro m rfl
    rw [← hn, Char.ofNat_toNat]
  simp only [encodeChar, hn]
  split_ifs with h1 h2 h3
  · rw [List.singleton_append, decodeFrom, toNat_byte (by omega), decodeStart, if_pos h1,
      hc n rfl]
    rfl
  · simp only [List.cons_append, List.nil_append]
    rw [decodeFrom_start (by omega) (start?_two (by omega)),
      decodeFrom_last (by omega) (by omega), hc _ (by omega)]
  · obtain ⟨low, high, hs, hlow, hhigh⟩ := @start?_three n (by omega) (by omega)
    simp only [List.cons_append, List.nil_append]
    rw [decodeFrom_start (by omega) hs, decodeFrom_next ⟨hlow, hhigh⟩ (by omega),
      decodeFrom_last (by omega) (by omega), hc _ (by omega)]
  · obtain ⟨low, high, hs, hlow, hhigh⟩ := @start?_four n (by omega)
    simp only [List.cons_append, List.nil_append]
    rw [decodeFrom_start (by omega) hs, decodeFrom_next ⟨hlow, hhigh⟩ (by omega),
      decodeFrom_next (by omega) (by omega), decodeFrom_last (by omega) (by omega),
      hc _ (by omega)]

theorem decodeUtf8_encodeUtf8 (cs : List Char) : decodeUtf8 (encodeUtf8 cs) = cs := by
  induction cs with
  | nil => rfl
  | cons c cs ih =>
    rw [encodeUtf8, List.flatMap_cons, decodeUtf8, decodeFrom_encodeChar]
    exact congrArg (c :: ·) ih

/-- A byte is decoded to one character at most, and so is a character that was begun. -/
theorem length_decodeFrom_le (bs : List UInt8) (pending : Option Pending) :
    (decodeFrom pending bs).length ≤ bs.length + pending.toList.length := by
  have hstart : ∀ m, (decodeStart m).1.length + (decodeStart m).2.toList.length ≤ 1 := by
    intro m
    unfold decodeStart
    split_ifs
    · exact Nat.le_refl 1
    · split <;> exact Nat.le_refl 1
  induction bs generalizing pending with
  | nil => cases pending <;> simp [decodeFrom]
  | cons b bs ih =>
    have hb := ih (decodeStart b.toNat).2
    have hs := hstart b.toNat
    cases pending with
    | none =>
      rw [decodeFrom, List.length_append, List.length_cons]
      omega
    | some p =>
      rw [decodeFrom]
      dsimp only
      split_ifs
      · have hrest := ih none
        simp only [List.length_cons, Option.toList_none, Option.toList_some, List.length_nil] at *
        omega
      · have hrest := ih (some ⟨p.owed - 1, 0x80, 0xBF, p.value * 64 + (b.toNat - 0x80)⟩)
        simp only [List.length_cons, Option.toList_some, List.length_nil] at *
        omega
      · simp only [List.length_cons, List.length_append, Option.toList_some, List.length_nil]
        omega

end Utf8

/-! ### Escapes -/

/-- A text starts with a percent sign and two hexadecimal digits. -/
def StartsEscape (cs : List Char) : Prop :=
  ∃ a b, ['%', a, b] <+: cs ∧ (hexValue? a).isSome ∧ (hexValue? b).isSome

/-- A text holds a percent sign before two hexadecimal digits. -/
def HasEscape (cs : List Char) : Prop :=
  ∃ a b, ['%', a, b] <:+: cs ∧ (hexValue? a).isSome ∧ (hexValue? b).isSome

section Escapes

variable {c : Char} {cs ds : List Char}

theorem HasEscape.mono (h : HasEscape cs) (hds : cs <:+: ds) : HasEscape ds := by
  obtain ⟨a, b, hab, ha, hb⟩ := h
  exact ⟨a, b, hab.trans hds, ha, hb⟩

theorem hasEscape_cons : HasEscape (c :: cs) ↔ StartsEscape (c :: cs) ∨ HasEscape cs := by
  constructor
  · rintro ⟨a, b, hab, ha, hb⟩
    rcases List.infix_cons_iff.mp hab with hfront | htail
    · exact .inl ⟨a, b, hfront, ha, hb⟩
    · exact .inr ⟨a, b, htail, ha, hb⟩
  · rintro (⟨a, b, hab, ha, hb⟩ | h)
    · exact ⟨a, b, hab.isInfix, ha, hb⟩
    · exact h.mono (List.suffix_cons c cs).isInfix

theorem StartsEscape.eq (h : StartsEscape cs) : ∃ a b rest x y, cs = '%' :: a :: b :: rest ∧
    hexValue? a = some x ∧ hexValue? b = some y := by
  obtain ⟨a, b, ⟨rest, rfl⟩, ha, hb⟩ := h
  obtain ⟨x, hx⟩ := Option.isSome_iff_exists.mp ha
  obtain ⟨y, hy⟩ := Option.isSome_iff_exists.mp hb
  exact ⟨a, b, rest, x, y, rfl, hx, hy⟩

/-- A character that starts no escape stands for its own bytes. -/
theorem percentBytes_cons (h : ¬ StartsEscape (c :: cs)) :
    percentBytes (c :: cs) = encodeChar c ++ percentBytes cs := by
  rw [percentBytes.eq_def]
  split
  · contradiction
  · rename_i a b rest he
    obtain ⟨rfl, rfl⟩ := List.cons.inj he
    split
    · rename_i x y hx hy
      exact absurd ⟨a, b, List.prefix_append ['%', a, b] rest, by simp [hx, hy]⟩ h
    · rfl
  · rename_i he
    obtain ⟨rfl, rfl⟩ := List.cons.inj he
    rfl

theorem not_hasEscape_nil : ¬ HasEscape [] := by
  rintro ⟨a, b, hab, -⟩
  exact absurd (List.infix_nil.mp hab) (List.cons_ne_nil _ _)

theorem ascii_of_hexValue? {n : Nat} (h : hexValue? c = some n) : c.toNat < 128 := by
  unfold hexValue? at h
  split_ifs at h with h1 h2 h3
  · simp only [Char.isDigit, Bool.and_eq_true, decide_eq_true_eq] at h1
    exact Nat.lt_of_le_of_lt (UInt32.le_iff_toNat_le.mp h1.2) (by decide)
  · exact Nat.lt_of_le_of_lt h2.2 (by decide)
  · exact Nat.lt_of_le_of_lt h3.2 (by decide)

/-- A text without escapes stands for its own bytes. -/
theorem percentBytes_of_not_hasEscape (h : ¬ HasEscape cs) : percentBytes cs = encodeUtf8 cs := by
  induction cs with
  | nil => rfl
  | cons c cs ih =>
    rw [hasEscape_cons, not_or] at h
    rw [percentBytes_cons h.1, ih h.2]
    rfl

/-- In a text of ASCII characters each stands for one byte, and an escape stands for one too. -/
theorem length_percentBytes (cs : List Char) (h : ∀ c ∈ cs, c.toNat < 128) :
    (percentBytes cs).length ≤ cs.length ∧
      (HasEscape cs → (percentBytes cs).length < cs.length) := by
  match cs with
  | [] => exact ⟨Nat.le_refl 0, fun he => absurd he not_hasEscape_nil⟩
  | c :: cs =>
    obtain ⟨hc, hcs⟩ := List.forall_mem_cons.mp h
    by_cases hs : StartsEscape (c :: cs)
    · obtain ⟨a, b, rest, x, y, he, hx, hy⟩ := hs.eq
      obtain ⟨rfl, rfl⟩ := List.cons.inj he
      have hrest := (length_percentBytes rest fun d hd => hcs d (by simp [hd])).1
      rw [percentBytes, hx, hy]
      simp only [List.length_cons]
      omega
    · obtain ⟨hle, hlt⟩ := length_percentBytes cs hcs
      have hone : encodeChar c = [UInt8.ofNat c.toNat] := by simp only [encodeChar, if_pos hc]
      rw [percentBytes_cons hs, hone, hasEscape_cons, or_iff_right hs]
      simp only [List.length_append, List.length_cons, List.length_nil]
      exact ⟨by omega, fun he => by have := hlt he; omega⟩

end Escapes

/-! ### Encoded texts -/

section Encoding

variable {n : Nat} {b : UInt8} {c d : Char} {cs : List Char}

theorem ascii_of_isUnreserved (h : isUnreserved c = true) : c.toNat < 128 := by
  simp only [isUnreserved, Bool.or_eq_true, beq_iff_eq, isAlphanum_iff, isUpper_iff, isLower_iff,
    isDigit_iff] at h
  rcases h with (((h | rfl) | rfl) | rfl) | rfl
  · omega
  all_goals decide

theorem hexDigit_isUnreserved (hn : n < 16) : isUnreserved (hexDigit n) = true := by
  interval_cases n <;> decide

theorem hexValue?_hexDigit (hn : n < 16) : hexValue? (hexDigit n) = some n := by
  interval_cases n <;> decide

/-- An encoded text consists of unreserved characters and percent signs. -/
theorem mem_percentEncode {s : String} (hd : d ∈ (percentEncode s).toList) :
    isUnreserved d = true ∨ d = '%' := by
  rw [percentEncode, String.toList_ofList] at hd
  obtain ⟨c, -, hd⟩ := List.mem_flatMap.mp hd
  unfold percentChar at hd
  split_ifs at hd with hc
  · rw [List.mem_singleton.mp hd]
    exact .inl hc
  · obtain ⟨b, -, hd⟩ := List.mem_flatMap.mp hd
    have hb := b.toNat_lt
    simp only [percentByte, List.mem_cons, List.not_mem_nil, or_false] at hd
    rcases hd with rfl | rfl | rfl
    · exact .inr rfl
    · exact .inl (hexDigit_isUnreserved (by omega))
    · exact .inl (hexDigit_isUnreserved (by omega))

/-- A character that is reserved, and no percent sign, stands in no encoded text. -/
theorem not_mem_percentEncode (s : String) (hd : isUnreserved d = false) (hp : d ≠ '%') :
    d ∉ (percentEncode s).toList := by
  intro hmem
  rcases mem_percentEncode hmem with h | h
  · exact absurd (hd.symm.trans h) Bool.false_ne_true
  · exact hp h

theorem percentBytes_percentByte (b : UInt8) (cs : List Char) :
    percentBytes (percentByte b ++ cs) = b :: percentBytes cs := by
  have hb := b.toNat_lt
  have hsum : 16 * (b.toNat / 16) + b.toNat % 16 = b.toNat := by omega
  simp only [percentByte, List.cons_append, List.nil_append]
  rw [percentBytes, hexValue?_hexDigit (by omega), hexValue?_hexDigit (by omega)]
  simp only [hsum, UInt8.ofNat_toNat]

/-- What is encoded stands for the bytes of the text. -/
theorem percentBytes_encoded (cs : List Char) :
    percentBytes (cs.flatMap percentChar) = encodeUtf8 cs := by
  have hbytes : ∀ (bs : List UInt8) (ds : List Char),
      percentBytes (bs.flatMap percentByte ++ ds) = bs ++ percentBytes ds := by
    intro bs ds
    induction bs with
    | nil => rfl
    | cons b bs ih =>
      rw [List.flatMap_cons, List.append_assoc, percentBytes_percentByte, ih, List.cons_append]
  induction cs with
  | nil => rfl
  | cons c cs ih =>
    rw [List.flatMap_cons, encodeUtf8, List.flatMap_cons, percentChar]
    split_ifs with hc
    · have hp : c ≠ '%' := by
        rintro rfl
        exact absurd hc (by decide)
      have hs : ¬ StartsEscape (c :: cs.flatMap percentChar) := by
        rintro ⟨a, b, ⟨rest, he⟩, -⟩
        exact hp (List.cons.inj he).1.symm
      rw [List.singleton_append, percentBytes_cons hs, ih]
      rfl
    · rw [hbytes, ih]
      rfl

end Encoding

/-! ### Runs -/

section Runs

variable {c d : Char} {cs run : List Char}

theorem asciiRuns_cons (c : Char) (cs : List Char) :
    ∃ run runs, asciiRuns (c :: cs) = (c :: run) :: runs := by
  rw [asciiRuns]
  split
  · split_ifs
    · exact ⟨_, _, rfl⟩
    · exact ⟨_, _, rfl⟩
  · exact ⟨_, _, rfl⟩

/-- Two characters side by side that are both below U+0080 or both above are in one run. -/
theorem asciiRuns_cons_cons (h : c.toNat < 128 ↔ d.toNat < 128) {runs : List (List Char)}
    (hr : asciiRuns (d :: cs) = (d :: run) :: runs) :
    asciiRuns (c :: d :: cs) = (c :: d :: run) :: runs := by
  rw [asciiRuns, hr]
  exact if_pos (propext h)

theorem flatten_asciiRuns (cs : List Char) : (asciiRuns cs).flatten = cs := by
  induction cs with
  | nil => rfl
  | cons c cs ih =>
    rw [asciiRuns]
    split
    · rename_i d run runs hr
      rw [hr] at ih
      split_ifs <;> simp [← ih]
    · simp [ih]

/-- All characters of a run are below U+0080, or none is. -/
theorem asciiRuns_uniform (h : run ∈ asciiRuns cs) :
    (∀ c ∈ run, c.toNat < 128) ∨ ∀ c ∈ run, ¬ c.toNat < 128 := by
  have hsingle : ∀ c : Char, (∀ d ∈ [c], d.toNat < 128) ∨ ∀ d ∈ [c], ¬ d.toNat < 128 := by
    intro c
    simp only [List.mem_singleton, forall_eq]
    exact Classical.em _
  induction cs generalizing run with
  | nil => exact absurd h List.not_mem_nil
  | cons c cs ih =>
    rw [asciiRuns] at h
    split at h
    · rename_i d rest runs hr
      rw [hr] at ih
      split_ifs at h with hsame
      · rcases List.mem_cons.mp h with rfl | h
        · rcases ih List.mem_cons_self with hall | hall
          · exact .inl (List.forall_mem_cons.mpr ⟨hsame ▸ hall d List.mem_cons_self, hall⟩)
          · exact .inr (List.forall_mem_cons.mpr ⟨hsame ▸ hall d List.mem_cons_self, hall⟩)
        · exact ih (List.mem_cons_of_mem _ h)
      · rcases List.mem_cons.mp h with rfl | h
        · exact hsingle c
        · exact ih h
    · rcases List.mem_cons.mp h with rfl | h
      · exact hsingle c
      · exact ih h

theorem asciiRuns_of_ascii (hne : cs ≠ []) (h : ∀ c ∈ cs, c.toNat < 128) : asciiRuns cs = [cs] := by
  induction cs with
  | nil => exact absurd rfl hne
  | cons c cs ih =>
    cases cs with
    | nil => rfl
    | cons d cs =>
      obtain ⟨hc, hcs⟩ := List.forall_mem_cons.mp h
      have hd := hcs d List.mem_cons_self
      exact asciiRuns_cons_cons (iff_of_true hc hd) (ih (List.cons_ne_nil d cs) hcs)

theorem mem_asciiRuns_cons (c : Char) (h : run ∈ asciiRuns cs) :
    run ∈ asciiRuns (c :: cs) ∨ c :: run ∈ asciiRuns (c :: cs) := by
  rw [asciiRuns]
  split
  · rename_i d rest runs hr
    rw [hr] at h
    split_ifs
    · rcases List.mem_cons.mp h with rfl | h
      · exact .inr List.mem_cons_self
      · exact .inl (List.mem_cons_of_mem _ h)
    · exact .inl (List.mem_cons_of_mem _ h)
  · exact .inl (List.mem_cons_of_mem _ h)

/-- The three characters of an escape are in one run. -/
theorem HasEscape.exists_run (h : HasEscape cs) : ∃ run ∈ asciiRuns cs, HasEscape run := by
  induction cs with
  | nil => exact absurd h not_hasEscape_nil
  | cons c cs ih =>
    rcases hasEscape_cons.mp h with hs | h
    · obtain ⟨a, b, rest, x, y, he, hx, hy⟩ := hs.eq
      obtain ⟨rfl, rfl⟩ := List.cons.inj he
      have ha := ascii_of_hexValue? hx
      obtain ⟨run, runs, hb⟩ := asciiRuns_cons b rest
      have hr := asciiRuns_cons_cons (iff_of_true (by decide : '%'.toNat < 128) ha)
        (asciiRuns_cons_cons (iff_of_true ha (ascii_of_hexValue? hy)) hb)
      refine ⟨'%' :: a :: b :: run, hr ▸ List.mem_cons_self, ?_⟩
      exact ⟨a, b, (List.prefix_append ['%', a, b] run).isInfix, by simp [hx, hy]⟩
    · obtain ⟨run, hrun, he⟩ := ih h
      rcases mem_asciiRuns_cons c hrun with hrun | hrun
      · exact ⟨run, hrun, he⟩
      · exact ⟨c :: run, hrun, he.mono (List.suffix_cons c run).isInfix⟩

/-- A run is decoded to a text that is no longer, and shorter if it holds an escape. -/
theorem length_decodeRun (h : run ∈ asciiRuns cs) :
    (decodeUtf8 (percentBytes run)).length ≤ run.length ∧
      (HasEscape run → (decodeUtf8 (percentBytes run)).length < run.length) := by
  rcases asciiRuns_uniform h with hascii | hhigh
  · obtain ⟨hle, hlt⟩ := length_percentBytes run hascii
    have hdecode : (decodeUtf8 (percentBytes run)).length ≤ (percentBytes run).length :=
      length_decodeFrom_le (percentBytes run) none
    exact ⟨by omega, fun he => by have := hlt he; omega⟩
  · have hnone : ¬ HasEscape run := by
      rintro ⟨a, b, hab, -, -⟩
      exact absurd (by decide) (hhigh '%' (hab.subset List.mem_cons_self))
    rw [percentBytes_of_not_hasEscape hnone, decodeUtf8_encodeUtf8]
    exact ⟨Nat.le_refl _, fun he => absurd he hnone⟩

/-- Decoding gives back what was encoded. -/
theorem percentDecode_percentEncode (s : String) : percentDecode (percentEncode s) = s := by
  have hascii : ∀ c ∈ (percentEncode s).toList, c.toNat < 128 := by
    intro c hc
    rcases mem_percentEncode hc with h | rfl
    · exact ascii_of_isUnreserved h
    · decide
  have hdecode : decodeUtf8 (percentBytes (percentEncode s).toList) = s.toList := by
    rw [percentEncode, String.toList_ofList, percentBytes_encoded, decodeUtf8_encodeUtf8]
  rw [percentDecode]
  by_cases hne : (percentEncode s).toList = []
  · rw [hne] at hdecode ⊢
    rw [← String.ofList_toList (s := s), ← hdecode]
    rfl
  · rw [asciiRuns_of_ascii hne hascii, List.flatMap_cons, hdecode, List.flatMap_nil,
      List.append_nil, String.ofList_toList]

/-- A decoded text is no longer than before, and shorter if it held an escape. -/
theorem length_percentDecode (s : String) :
    (percentDecode s).toList.length ≤ s.toList.length ∧
      (HasEscape s.toList → (percentDecode s).toList.length < s.toList.length) := by
  have hs : s.toList.length = ((asciiRuns s.toList).map List.length).sum := by
    rw [← List.length_flatten, flatten_asciiRuns]
  have hle : ∀ run ∈ asciiRuns s.toList,
      (decodeUtf8 (percentBytes run)).length ≤ run.length := fun run h => (length_decodeRun h).1
  rw [percentDecode, String.toList_ofList, List.length_flatMap, hs]
  refine ⟨List.sum_le_sum hle, fun he => ?_⟩
  obtain ⟨run, hrun, he⟩ := he.exists_run
  exact List.sum_lt_sum _ _ hle ⟨run, hrun, (length_decodeRun hrun).2 he⟩

/-- Decoding leaves exactly the texts without escapes as they are. -/
theorem percentDecode_eq_self_iff {s : String} : percentDecode s = s ↔ ¬ HasEscape s.toList := by
  constructor
  · intro h he
    have hlt := (length_percentDecode s).2 he
    rw [h] at hlt
    exact Nat.lt_irrefl _ hlt
  · intro h
    have hrun : ∀ run ∈ asciiRuns s.toList, decodeUtf8 (percentBytes run) = run := by
      intro run hrun
      have hin : run <:+: s.toList := by
        rw [← flatten_asciiRuns s.toList]
        exact List.infix_of_mem_flatten hrun
      rw [percentBytes_of_not_hasEscape fun he => h (he.mono hin), decodeUtf8_encodeUtf8]
    rw [percentDecode, List.flatMap_congr hrun, List.flatMap_id', flatten_asciiRuns,
      String.ofList_toList]

end Runs

end RowQuery.Text
