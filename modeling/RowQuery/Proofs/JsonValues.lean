import RowQuery.Json.Reader
import RowQuery.Proofs.Doubles
import RowQuery.Proofs.Grammar

/-! Values of JSON: nothing, truth values, numbers, texts, and lists and mappings of them, where the
keys of mappings are texts. A JSON text spells no integer of too many digits. Whatever is read from
one is such a value, and none of them holds a ready-made condition. -/

namespace RowQuery

mutual

/-- A value of a form that JSON has; its integers may have any number of digits. -/
def Value.hasJsonForm : Value → Bool
  | .null => true
  | .bool _ => true
  | .int _ => true
  | .float x => x.isInRange
  | .text _ => true
  | .list items => Value.allHaveJsonForm items
  | .map entries => Value.allEntriesHaveJsonForm entries
  | _ => false
termination_by structural v => v

def Value.allHaveJsonForm : List Value → Bool
  | [] => true
  | v :: vs => v.hasJsonForm && Value.allHaveJsonForm vs
termination_by structural vs => vs

/-- All keys are texts, and all values have a form of JSON. -/
def Value.allEntriesHaveJsonForm : List (Value × Value) → Bool
  | [] => true
  | (k, v) :: es => (match k with | .text _ => true | _ => false) && v.hasJsonForm &&
    Value.allEntriesHaveJsonForm es
termination_by structural es => es

end

namespace Value

/-- A value that JSON texts spell: it has a form of JSON, and its integers can be written. -/
def isJson (v : Value) : Bool := v.hasJsonForm && v.isWritable

theorem allHaveJsonForm_iff {items : List Value} :
    allHaveJsonForm items = true ↔ ∀ v ∈ items, v.hasJsonForm = true := by
  induction items with
  | nil => exact iff_of_true rfl fun _ h => absurd h List.not_mem_nil
  | cons v items ih => rw [allHaveJsonForm, Bool.and_eq_true, ih, List.forall_mem_cons]

theorem allEntriesHaveJsonForm_iff {entries : List (Value × Value)} :
    allEntriesHaveJsonForm entries = true ↔
      ∀ e ∈ entries, (∃ s, e.1 = .text s) ∧ e.2.hasJsonForm = true := by
  induction entries with
  | nil => exact iff_of_true rfl fun _ h => absurd h List.not_mem_nil
  | cons e entries ih =>
    obtain ⟨k, v⟩ := e
    cases k <;> simp [allEntriesHaveJsonForm, ih]

theorem hasJsonForm_list {items : List Value} :
    (list items).hasJsonForm = true ↔ ∀ v ∈ items, v.hasJsonForm = true := by
  rw [hasJsonForm, allHaveJsonForm_iff]

theorem hasJsonForm_map {entries : List (Value × Value)} : (map entries).hasJsonForm = true ↔
    ∀ e ∈ entries, (∃ s, e.1 = .text s) ∧ e.2.hasJsonForm = true := by
  rw [hasJsonForm, allEntriesHaveJsonForm_iff]

theorem isPlain_of_hasJsonForm (v : Value) : v.hasJsonForm = true → v.IsPlain := by
  induction v using parts_induction with
  | step v ih =>
    intro h
    have hc : ∀ c, v ≠ .condition c := by
      rintro c rfl
      contradiction
    refine .of_parts hc fun u hu => ih u hu ?_
    cases v with
    | list items => exact hasJsonForm_list.mp h u hu
    | map entries =>
      rcases List.mem_append.mp hu with hu | hu <;> obtain ⟨e, he, rfl⟩ := List.mem_map.mp hu
      · obtain ⟨⟨s, hs⟩, -⟩ := hasJsonForm_map.mp h e he
        rw [hs]
        rfl
      · exact (hasJsonForm_map.mp h e he).2
    | tuple items | set items => contradiction
    | _ => exact absurd hu List.not_mem_nil

/-- Every field of an object of JSON's form has such a form, and so has nothing in the place of a
missing one. -/
theorem hasJsonForm_field {entries : List (Value × Value)}
    (h : (map entries).hasJsonForm = true) (key : String) :
    ((field? entries key).getD .null).hasJsonForm = true := by
  cases hv : field? entries key with
  | none => rfl
  | some v => exact (hasJsonForm_map.mp h _ (mem_of_field? hv)).2

theorem isJson_iff {v : Value} :
    v.isJson = true ↔ v.hasJsonForm = true ∧ v.isWritable = true := by
  rw [isJson, Bool.and_eq_true]

theorem isJson_list {items : List Value} :
    (list items).isJson = true ↔ ∀ v ∈ items, v.isJson = true := by
  rw [isJson_iff, hasJsonForm_list, isWritable, allWritable_iff]
  simp only [isJson_iff, forall₂_and]

theorem isJson_map {entries : List (Value × Value)} : (map entries).isJson = true ↔
    ∀ e ∈ entries, (∃ s, e.1 = .text s) ∧ e.2.isJson = true := by
  rw [isJson_iff, hasJsonForm_map, isWritable, allEntriesWritable_iff, ← forall₂_and]
  refine forall₂_congr fun e _ => ?_
  constructor
  · rintro ⟨⟨hk, hv⟩, -, hw⟩
    exact ⟨hk, isJson_iff.mpr ⟨hv, hw⟩⟩
  · rintro ⟨⟨s, hs⟩, hj⟩
    obtain ⟨hv, hw⟩ := isJson_iff.mp hj
    exact ⟨⟨⟨s, hs⟩, hv⟩, by rw [hs]; rfl, hw⟩

theorem isPlain_of_isJson (v : Value) (h : v.isJson = true) : v.IsPlain :=
  isPlain_of_hasJsonForm v (isJson_iff.mp h).1

/-- Every field of a JSON object is a JSON value, and so is nothing in the place of a missing one. -/
theorem isJson_field {entries : List (Value × Value)} (h : (map entries).isJson = true)
    (key : String) : ((field? entries key).getD .null).isJson = true := by
  cases hv : field? entries key with
  | none => rfl
  | some v => exact (isJson_map.mp h _ (mem_of_field? hv)).2

theorem isJson_ofEntries {entries : List (Value × Value)}
    (h : ∀ e ∈ entries, (∃ s, e.1 = .text s) ∧ e.2.isJson = true) :
    (ofEntries entries).isJson = true :=
  isJson_map.mpr (Keyed.forall_ofList (P := fun k : Value => ∃ s, k = .text s)
    (Q := fun v : Value => v.isJson = true) h)

end Value

/-! ### What is read -/

namespace Json

theorem named_isJson {cs rest : List Char} {v : Value} (h : named cs = some (v, rest)) :
    v.isJson = true := by
  obtain ⟨⟨word, u⟩, hmem, hw⟩ := List.exists_of_findSome?_eq_some h
  obtain ⟨_, -, hv⟩ := Option.map_eq_some_iff.mp hw
  obtain ⟨rfl, -⟩ := Prod.mk.inj hv
  simp only [List.mem_cons, Prod.mk.injEq, List.not_mem_nil, or_false] at hmem
  rcases hmem with ⟨-, rfl⟩ | ⟨-, rfl⟩ | ⟨-, rfl⟩ | ⟨-, rfl⟩ | ⟨-, rfl⟩ | ⟨-, rfl⟩ <;> rfl

theorem digitsValue_lt {ds : List Char} (h : ∀ d ∈ ds, d.isDigit = true) :
    digitsValue ds < 10 ^ ds.length := by
  induction ds using List.reverseRecOn with
  | nil => exact Nat.one_pos
  | append_singleton ds d ih =>
    obtain ⟨hds, hd⟩ := List.forall_mem_append.mp h
    have hlt := ih hds
    have hd9 : d.toNat - 48 ≤ 9 := by
      have hle := (Bool.and_eq_true_iff.mp (hd d List.mem_cons_self)).2
      have hnat : d.toNat ≤ 57 := UInt32.le_iff_toNat_le.mp (of_decide_eq_true hle)
      omega
    have hvalue : digitsValue (ds ++ [d]) = 10 * digitsValue ds + (d.toNat - 48) := by
      rw [digitsValue, List.foldl_append]
      rfl
    rw [hvalue, List.length_append, List.length_singleton, Nat.pow_succ]
    omega

/-- An integer of few digits can be written. -/
theorem isWritable_digits {ds : List Char} (h : ∀ d ∈ ds, d.isDigit = true)
    (hlength : ds.length ≤ Text.maxDigits) (negative : Bool) :
    (Value.int (if negative then -(digitsValue ds : Int) else digitsValue ds)).isWritable = true := by
  have habs : (if negative then -(digitsValue ds : Int) else digitsValue ds).natAbs =
      digitsValue ds := by
    split_ifs <;> omega
  rw [Value.isWritable_int, habs]
  exact (digitsValue_lt h).trans_le (Nat.pow_le_pow_right (by decide) hlength)

theorem number_isJson {negative : Bool} {cs rest : List Char} {v : Value}
    (h : number negative cs = .ok (v, rest)) : v.isJson = true := by
  unfold number at h
  split at h
  rename_i whole after htaken
  have hdigits : ∀ d ∈ whole, d.isDigit = true := by
    split at htaken <;> obtain ⟨rfl, -⟩ := Prod.mk.inj htaken
    · simp
    · exact fun d hd => List.mem_takeWhile_imp hd
  dsimp only at h
  split at h
  · contradiction
  split at h
  · split at h
    · contradiction
    · rename_i hlength
      obtain ⟨rfl, -⟩ := Prod.mk.inj (Except.ok.inj h)
      exact Value.isJson_iff.mpr
        ⟨rfl, isWritable_digits hdigits (Nat.le_of_not_lt hlength) negative⟩
  · obtain ⟨rfl, -⟩ := Prod.mk.inj (Except.ok.inj h)
    exact Value.isJson_iff.mpr ⟨Double.isInRange_ofDecimal _ _ _, rfl⟩

/-- On this fuel the readers, which call each other on less, give JSON values. -/
structure ReadJson (fuel : Nat) : Prop where
  value : ∀ {cs rest : List Char} {v : Value}, value fuel cs = .ok (v, rest) → v.isJson = true
  items : ∀ {cs rest : List Char} {vs : List Value}, items fuel cs = .ok (vs, rest) →
    ∀ v ∈ vs, v.isJson = true
  entries : ∀ {cs rest : List Char} {es : List (Value × Value)}, entries fuel cs = .ok (es, rest) →
    ∀ e ∈ es, (∃ s, e.1 = .text s) ∧ e.2.isJson = true

section Readers

variable {fuel : Nat} {cs rest : List Char}

theorem ReadJson.value_succ (hr : ReadJson fuel) {v : Value}
    (h : Json.value (fuel + 1) cs = .ok (v, rest)) : v.isJson = true := by
  cases cs with
  | nil => simp [Json.value] at h
  | cons c cs =>
    rw [Json.value] at h
    by_cases hquote : c = '\x22'
    · rw [if_pos hquote] at h
      obtain ⟨⟨body, u⟩, -, h⟩ := Result.bind_eq_ok.mp h
      obtain ⟨rfl, -⟩ := Prod.mk.inj (Except.ok.inj h)
      rfl
    by_cases hlist : c = '['
    · rw [if_neg hquote, if_pos hlist] at h
      split at h
      · obtain ⟨rfl, -⟩ := Prod.mk.inj (Except.ok.inj h)
        rfl
      · obtain ⟨⟨vs, u⟩, hvs, h⟩ := Result.bind_eq_ok.mp h
        obtain ⟨rfl, -⟩ := Prod.mk.inj (Except.ok.inj h)
        exact Value.isJson_list.mpr (hr.items hvs)
    by_cases hmap : c = '\x7b'
    · rw [if_neg hquote, if_neg hlist, if_pos hmap] at h
      split at h
      · obtain ⟨rfl, -⟩ := Prod.mk.inj (Except.ok.inj h)
        rfl
      · obtain ⟨⟨es, u⟩, hes, h⟩ := Result.bind_eq_ok.mp h
        obtain ⟨rfl, -⟩ := Prod.mk.inj (Except.ok.inj h)
        exact Value.isJson_ofEntries (hr.entries hes)
    · rw [if_neg hquote, if_neg hlist, if_neg hmap] at h
      split at h
      · rename_i taken ht
        obtain rfl := Except.ok.inj h
        exact named_isJson ht
      · split at h <;> exact number_isJson h

theorem ReadJson.items_succ (hr : ReadJson fuel) {vs : List Value}
    (h : Json.items (fuel + 1) cs = .ok (vs, rest)) : ∀ v ∈ vs, v.isJson = true := by
  rw [Json.items] at h
  obtain ⟨⟨first, u⟩, hfirst, h⟩ := Result.bind_eq_ok.mp h
  have hf := hr.value hfirst
  dsimp only at h
  split at h
  · obtain ⟨rfl, -⟩ := Prod.mk.inj (Except.ok.inj h)
    exact List.forall_mem_singleton.mpr hf
  · obtain ⟨⟨others, t⟩, hothers, h⟩ := Result.bind_eq_ok.mp h
    obtain ⟨rfl, -⟩ := Prod.mk.inj (Except.ok.inj h)
    exact List.forall_mem_cons.mpr ⟨hf, hr.items hothers⟩
  · contradiction

theorem ReadJson.entries_succ (hr : ReadJson fuel) {es : List (Value × Value)}
    (h : Json.entries (fuel + 1) cs = .ok (es, rest)) :
    ∀ e ∈ es, (∃ s, e.1 = .text s) ∧ e.2.isJson = true := by
  cases cs with
  | nil => simp [Json.entries] at h
  | cons c cs =>
    rw [Json.entries] at h
    split_ifs at h
    obtain ⟨⟨key, u⟩, -, h⟩ := Result.bind_eq_ok.mp h
    dsimp only at h
    split at h
    · obtain ⟨⟨v, t⟩, hv, h⟩ := Result.bind_eq_ok.mp h
      have hj := hr.value hv
      dsimp only at h
      split at h
      · obtain ⟨rfl, -⟩ := Prod.mk.inj (Except.ok.inj h)
        exact List.forall_mem_singleton.mpr ⟨⟨_, rfl⟩, hj⟩
      · obtain ⟨⟨others, t⟩, hothers, h⟩ := Result.bind_eq_ok.mp h
        obtain ⟨rfl, -⟩ := Prod.mk.inj (Except.ok.inj h)
        exact List.forall_mem_cons.mpr ⟨⟨⟨_, rfl⟩, hj⟩, hr.entries hothers⟩
      · contradiction
    · contradiction

theorem readJson (fuel : Nat) : ReadJson fuel := by
  induction fuel with
  | zero =>
    constructor
    · intro cs rest v h
      simp [Json.value] at h
    · intro cs rest vs h
      simp [Json.items] at h
    · intro cs rest es h
      simp [Json.entries] at h
  | succ fuel ih => exact ⟨ih.value_succ, ih.items_succ, ih.entries_succ⟩

end Readers

/-- What a JSON text spells is a JSON value. -/
theorem isJson_of_read {s : String} {v : Value} (h : read s = .ok v) : v.isJson = true := by
  obtain ⟨⟨u, rest⟩, hu, h⟩ := Result.bind_eq_ok.mp h
  dsimp only at h
  split_ifs at h
  obtain rfl := Except.ok.inj h
  exact (readJson _).value hu

end Json

end RowQuery
