/-!
Association lists in order of insertion. Writing to a key that is present keeps its place, so the
order of the keys is the order of their first writes.
-/

namespace RowQuery.Keyed

variable {α β : Type} [BEq α]

/-- The value stored for a key. -/
def find? (entries : List (α × β)) (key : α) : Option β :=
  match entries with
  | [] => none
  | (k, v) :: rest => if k == key then some v else find? rest key

/-- Stores a value for a key, in the place of the old one or at the end. -/
def put (entries : List (α × β)) (key : α) (value : β) : List (α × β) :=
  match entries with
  | [] => [(key, value)]
  | (k, v) :: rest => if k == key then (k, value) :: rest else (k, v) :: put rest key value

/-- Stores the entries of the second list one after another. -/
def putAll (entries added : List (α × β)) : List (α × β) :=
  added.foldl (fun acc e => put acc e.1 e.2) entries

def ofList (added : List (α × β)) : List (α × β) := putAll [] added

def keys (entries : List (α × β)) : List α := entries.map (·.1)

def hasKey (entries : List (α × β)) (key : α) : Bool := (find? entries key).isSome

/-- What is found for a key stands in an entry with an equal key. -/
theorem mem_of_find? {entries : List (α × β)} {key : α} {v : β} (h : find? entries key = some v) :
    ∃ k, (k == key) = true ∧ (k, v) ∈ entries := by
  induction entries with
  | nil => contradiction
  | cons e es ih =>
    obtain ⟨k, u⟩ := e
    rw [find?] at h
    split at h
    · rename_i hk
      obtain rfl := Option.some.inj h
      exact ⟨k, hk, List.mem_cons_self⟩
    · obtain ⟨j, hj, hmem⟩ := ih h
      exact ⟨j, hj, List.mem_cons_of_mem _ hmem⟩

/-- Nothing is found for a key that equals none of the keys. -/
theorem find?_eq_none_iff {entries : List (α × β)} {key : α} :
    find? entries key = none ↔ ∀ k ∈ keys entries, (k == key) = false := by
  induction entries with
  | nil => exact iff_of_true rfl fun _ h => absurd h List.not_mem_nil
  | cons e es ih =>
    obtain ⟨k, v⟩ := e
    rw [find?, keys, List.map_cons, List.forall_mem_cons, ← keys, ← ih]
    cases k == key <;> simp

theorem find?_append (entries added : List (α × β)) (key : α) :
    find? (entries ++ added) key = (find? entries key).or (find? added key) := by
  induction entries with
  | nil => rfl
  | cons e es ih =>
    obtain ⟨k, v⟩ := e
    rw [List.cons_append, find?, find?, ih]
    split <;> rfl

theorem find?_put [LawfulBEq α] (entries : List (α × β)) (k key : α) (v : β) :
    find? (put entries k v) key = if k == key then some v else find? entries key := by
  induction entries with
  | nil => rfl
  | cons e es ih =>
    obtain ⟨j, u⟩ := e
    rw [put]
    by_cases hj : j == k
    · obtain rfl := beq_iff_eq.mp hj
      simp only [hj, ↓reduceIte, find?]
      split <;> rfl
    · simp only [hj, Bool.false_eq_true, ↓reduceIte, find?, ih]
      by_cases hk : k == key
      · obtain rfl := beq_iff_eq.mp hk
        simp only [hj, Bool.false_eq_true, ↓reduceIte]
      · simp only [hk, Bool.false_eq_true, ↓reduceIte]

theorem putAll_cons (entries : List (α × β)) (e : α × β) (added : List (α × β)) :
    putAll entries (e :: added) = putAll (put entries e.1 e.2) added := rfl

/-- Of entries stored one after another the last one for a key counts. -/
theorem find?_putAll [LawfulBEq α] (entries added : List (α × β)) (key : α) :
    find? (putAll entries added) key = (find? added.reverse key).or (find? entries key) := by
  induction added generalizing entries with
  | nil => rfl
  | cons e added ih =>
    obtain ⟨k, v⟩ := e
    rw [putAll_cons, ih, find?_put, List.reverse_cons, find?_append, Option.or_assoc]
    by_cases hk : k == key <;> simp [find?, hk]

theorem find?_ofList [LawfulBEq α] (added : List (α × β)) (key : α) :
    find? (ofList added) key = find? added.reverse key := by
  rw [ofList, find?_putAll, find?, Option.or_none]

omit [BEq α] in
@[simp] theorem keys_nil : keys ([] : List (α × β)) = [] := rfl

omit [BEq α] in
@[simp] theorem keys_cons (e : α × β) (es : List (α × β)) : keys (e :: es) = e.1 :: keys es := rfl

section Entries

variable {entries added : List (α × β)} {key : α} {v : β} {P : α → Prop} {Q : β → Prop}

/-- Whatever holds of all keys and of all values still holds when an entry is written. -/
theorem forall_put (h : ∀ e ∈ entries, P e.1 ∧ Q e.2) (hk : P key) (hv : Q v) :
    ∀ e ∈ put entries key v, P e.1 ∧ Q e.2 := by
  induction entries with
  | nil =>
    intro e he
    obtain rfl := List.mem_singleton.mp he
    exact ⟨hk, hv⟩
  | cons d es ih =>
    obtain ⟨hd, hes⟩ := List.forall_mem_cons.mp h
    rw [put]
    split
    · exact List.forall_mem_cons.mpr ⟨⟨hd.1, hv⟩, hes⟩
    · exact List.forall_mem_cons.mpr ⟨hd, ih hes⟩

theorem forall_putAll (h : ∀ e ∈ entries, P e.1 ∧ Q e.2) (ha : ∀ e ∈ added, P e.1 ∧ Q e.2) :
    ∀ e ∈ putAll entries added, P e.1 ∧ Q e.2 := by
  induction added generalizing entries with
  | nil => exact h
  | cons d added ih =>
    obtain ⟨hd, hadded⟩ := List.forall_mem_cons.mp ha
    exact ih (forall_put h hd.1 hd.2) hadded

/-- Whatever holds of all keys and of all values holds of the entries of a mapping. -/
theorem forall_ofList (h : ∀ e ∈ added, P e.1 ∧ Q e.2) : ∀ e ∈ ofList added, P e.1 ∧ Q e.2 :=
  forall_putAll (fun _ he => absurd he List.not_mem_nil) h

/-- No key is equal to a later one. -/
abbrev Apart (entries : List (α × β)) : Prop := entries.Pairwise fun e f => (e.1 == f.1) = false

theorem apart_put (h : Apart entries) (key : α) (v : β) : Apart (put entries key v) := by
  induction entries with
  | nil => exact List.pairwise_singleton _ _
  | cons e es ih =>
    obtain ⟨k, u⟩ := e
    obtain ⟨hk, hes⟩ := List.pairwise_cons.mp h
    rw [put]
    split
    · exact List.pairwise_cons.mpr ⟨hk, hes⟩
    · rename_i hne
      refine List.pairwise_cons.mpr ⟨fun f hf => ?_, ih hes⟩
      have hkeys := forall_put (P := fun j => (k == j) = false) (Q := fun _ => True) (v := v)
        (fun g hg => ⟨hk g hg, trivial⟩) (Bool.eq_false_iff.mpr hne) trivial
      exact (hkeys f hf).1

theorem apart_putAll (h : Apart entries) : Apart (putAll entries added) := by
  induction added generalizing entries with
  | nil => exact h
  | cons e added ih => exact ih (apart_put h e.1 e.2)

/-- No two keys of a mapping are equal, whatever the equality is. -/
theorem apart_ofList : Apart (ofList added) := apart_putAll List.Pairwise.nil

end Entries

section Keys

variable [LawfulBEq α] {entries added : List (α × β)} {key k : α}

/-- Among entries of different keys, a key is found with the value of its entry. -/
theorem find?_eq_some_iff (h : (keys entries).Nodup) {v : β} :
    find? entries key = some v ↔ (key, v) ∈ entries := by
  constructor
  · intro hf
    obtain ⟨j, hj, hmem⟩ := mem_of_find? hf
    rwa [← beq_iff_eq.mp hj]
  · intro hmem
    induction entries with
    | nil => exact absurd hmem List.not_mem_nil
    | cons e es ih =>
      obtain ⟨hnew, hes⟩ := List.nodup_cons.mp h
      rcases List.mem_cons.mp hmem with rfl | hmem
      · exact if_pos BEq.rfl
      · have hmemKey : key ∈ keys es := List.mem_map_of_mem hmem
        have hne : ¬ (e.1 == key) = true := by
          intro he
          rw [← beq_iff_eq.mp he] at hmemKey
          exact hnew hmemKey
        rw [find?, if_neg hne, ih hes hmem]

/-- Writing to a key that is present leaves the keys as they are. -/
theorem keys_put_of_mem (h : key ∈ keys entries) (v : β) :
    keys (put entries key v) = keys entries := by
  induction entries with
  | nil => exact absurd h List.not_mem_nil
  | cons e es ih =>
    obtain ⟨j, u⟩ := e
    rw [put]
    by_cases hj : j == key
    · rw [if_pos hj]
      rfl
    · rw [if_neg hj, keys_cons, keys_cons, ih]
      rcases List.mem_cons.mp h with rfl | h
      · exact absurd BEq.rfl hj
      · exact h

/-- A key that is new comes last. -/
theorem put_of_not_mem (h : key ∉ keys entries) (v : β) :
    put entries key v = entries ++ [(key, v)] := by
  induction entries with
  | nil => rfl
  | cons e es ih =>
    obtain ⟨j, u⟩ := e
    have hj : ¬ (j == key) = true := fun hj =>
      h (List.mem_cons.mpr (.inl (beq_iff_eq.mp hj).symm))
    rw [put, if_neg hj, ih fun hmem => h (List.mem_cons_of_mem j hmem), List.cons_append]

theorem mem_keys_put {v : β} : k ∈ keys (put entries key v) ↔ k ∈ keys entries ∨ k = key := by
  by_cases h : key ∈ keys entries
  · rw [keys_put_of_mem h]
    constructor
    · exact .inl
    · rintro (hk | rfl)
      · exact hk
      · exact h
  · rw [put_of_not_mem h, keys, List.map_append, List.mem_append]
    simp [keys]

theorem nodup_keys_put (h : (keys entries).Nodup) (v : β) : (keys (put entries key v)).Nodup := by
  by_cases hk : key ∈ keys entries
  · rwa [keys_put_of_mem hk]
  · rw [put_of_not_mem hk, keys, List.map_append]
    refine List.nodup_append.mpr ⟨h, by simp, ?_⟩
    rintro a ha b hb rfl
    obtain rfl := List.mem_singleton.mp hb
    exact hk ha

theorem mem_keys_putAll :
    k ∈ keys (putAll entries added) ↔ k ∈ keys entries ∨ k ∈ keys added := by
  induction added generalizing entries with
  | nil => simp [putAll]
  | cons e added ih => rw [putAll_cons, ih, mem_keys_put, keys_cons, List.mem_cons, or_assoc]

theorem nodup_keys_putAll (h : (keys entries).Nodup) (added : List (α × β)) :
    (keys (putAll entries added)).Nodup := by
  induction added generalizing entries with
  | nil => exact h
  | cons e added ih => exact ih (nodup_keys_put h e.2)

/-- A list of entries has the keys of what was added, each of them once. -/
theorem mem_keys_ofList : k ∈ keys (ofList added) ↔ k ∈ keys added := by
  rw [ofList, mem_keys_putAll]
  simp

theorem nodup_keys_ofList (added : List (α × β)) : (keys (ofList added)).Nodup := by
  have hnil : (keys ([] : List (α × β))).Nodup := List.nodup_nil
  exact nodup_keys_putAll hnil added

/-- Entries under keys that are all new are added at the end. -/
theorem putAll_of_nodup (h : (keys (entries ++ added)).Nodup) :
    putAll entries added = entries ++ added := by
  induction added generalizing entries with
  | nil => exact (List.append_nil entries).symm
  | cons e added ih =>
    have hnew : e.1 ∉ keys entries := by
      rw [keys, List.map_append, List.nodup_append] at h
      exact fun hmem => h.2.2 e.1 hmem e.1 List.mem_cons_self rfl
    have hsame : entries ++ e :: added = entries ++ [e] ++ added := by simp
    rw [putAll_cons, put_of_not_mem hnew, ih (hsame ▸ h), hsame]

theorem ofList_of_nodup (h : (keys added).Nodup) : ofList added = added := putAll_of_nodup h

/-- The entries of a mapping may be read from either end. -/
theorem find?_reverse_ofList (added : List (α × β)) (key : α) :
    find? (ofList added).reverse key = find? added.reverse key := by
  rw [← find?_ofList (ofList added), ofList_of_nodup (nodup_keys_ofList added), find?_ofList]

end Keys

end RowQuery.Keyed
