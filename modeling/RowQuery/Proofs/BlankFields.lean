import RowQuery.Proofs.Agreement
import RowQuery.Proofs.Registration

/-! Blank fields of a mapping file. A field that is written without a value is a field all the same:
a blank table or model is the one called `None`, and a blank cap is refused. So a file says the same
without its blank fields only where nothing but a table is blank, and that of an entity whose own
name is `None`. -/

namespace RowQuery

open Search Schema

/-- The fields that a mapping holds a value for. A text is the key of one field, which is found under
it; a nan may be the key of several, so other fields are told by their own values. -/
def Value.filledFields (fields : List (Value × Value)) : List (Value × Value) :=
  fields.filter fun f => match f.1 with
    | .text key => (field? fields key).any fun v => !isNull v
    | _ => !isNull f.2

/-- Of the fields under a key all are kept, and what is found there, or none is. -/
theorem Value.field?_filter {keep : Value × Value → Bool} {fields : List (Value × Value)}
    {key : String} {kept : Bool} (h : ∀ f, f.1 = .text key → keep f = kept) :
    field? (fields.filter keep) key = if kept then field? fields key else none := by
  unfold field?
  induction fields with
  | nil => simp [Keyed.find?]
  | cons f fields ih =>
    obtain ⟨k, v⟩ := f
    by_cases hk : k = .text key
    · subst hk
      have hkeep : keep (.text key, v) = kept := h _ rfl
      cases kept with
      | true => simp [hkeep, Keyed.find?, Value.beq_text_iff]
      | false => simp [hkeep, ih]
    · have hne : (k == Value.text key) = false := by
        simpa using fun h => hk (Value.beq_text_iff.mp h)
      by_cases hkeep : keep (k, v) = true
      · simp [hkeep, Keyed.find?, hne, ih]
      · simp [hkeep, Keyed.find?, hne, ih]

theorem Value.field?_filledFields (fields : List (Value × Value)) (key : String) :
    field? (filledFields fields) key = (field? fields key).filter fun v => !isNull v := by
  have hkept : ∀ f : Value × Value, f.1 = .text key → (match f.1 with
      | .text key => (field? fields key).any fun v => !isNull v
      | _ => !isNull f.2) = (field? fields key).any fun v => !isNull v := by
    rintro ⟨k, v⟩ rfl
    rfl
  rw [filledFields, field?_filter hkept]
  cases field? fields key with
  | none => rfl
  | some v => cases h : isNull v <;> simp [Option.filter, h]

namespace Registry

variable {key : Value} {fields : List (Value × Value)} {tables : List (Value × Value)}
  {r : Registry} {file file' : Option String}

/-- A table of a mapping file without the blank fields of its entry. -/
def withoutBlanks (t : Value × Value) : Value × Value :=
  match t.2 with
  | .map fields => (t.1, .map (Value.filledFields fields))
  | _ => t

/-- The blank fields of an entry say what leaving them out would say. -/
structure SaysNoMore (key : Value) (fields : List (Value × Value)) : Prop where
  model : Value.field? fields "model" ≠ some .null
  maxLimit : Value.field? fields "maxLimit" ≠ some .null
  table : Value.field? fields "table" = some .null → key.written = .ok "None"

theorem filter_of_ne_null {v : Option Value} (h : v ≠ some .null) :
    (v.filter fun v => !isNull v) = v := by
  cases v with
  | none => rfl
  | some v =>
    have hv : isNull v = false := by
      simpa using fun hn => h (congrArg some (isNull_iff.mp hn))
    simp [hv]

theorem readEntry_filledFields (h : SaysNoMore key fields) :
    readEntry key (.map (Value.filledFields fields)) = readEntry key (.map fields) := by
  rw [readEntry_map, readEntry_map]
  simp only [Value.field?_filledFields, filter_of_ne_null h.model, filter_of_ne_null h.maxLimit]
  by_cases ht : Value.field? fields "table" = some .null
  · have hnull : Value.null.written = .ok "None" := rfl
    have hkey := h.table ht
    rw [ht]
    simp only [Option.filter, isNull, Option.getD_some, hnull]
    simp [hkey]
  · rw [filter_of_ne_null ht]

/-- An entry that is read the same without its blank fields has none that counts. -/
theorem saysNoMore_of_readEntry {e : Entry} (h : readEntry key (.map fields) = .ok e)
    (h' : readEntry key (.map (Value.filledFields fields)) = .ok e) : SaysNoMore key fields := by
  rw [readEntry_map] at h h'
  obtain ⟨table, htable, h⟩ := Result.bind_eq_ok.mp h
  obtain ⟨model, hmodel, h⟩ := Result.bind_eq_ok.mp h
  obtain ⟨maxLimit, hlimit, h⟩ := Result.bind_eq_ok.mp h
  obtain rfl := Except.ok.inj h
  obtain ⟨table', htable', h'⟩ := Result.bind_eq_ok.mp h'
  obtain ⟨model', hmodel', h'⟩ := Result.bind_eq_ok.mp h'
  obtain ⟨maxLimit', -, h'⟩ := Result.bind_eq_ok.mp h'
  obtain ⟨rfl, rfl, rfl⟩ := Entry.mk.inj (Except.ok.inj h')
  rw [Value.field?_filledFields] at htable' hmodel'
  refine ⟨fun hn => ?_, fun hn => ?_, fun hn => ?_⟩
  · rw [hn] at hmodel hmodel'
    obtain rfl : some "None" = model' := Except.ok.inj hmodel
    cases hmodel'
  · rw [hn] at hlimit
    cases hlimit
  · rw [hn] at htable htable'
    obtain rfl : "None" = table' := Except.ok.inj htable
    exact htable'

theorem readEntry_withoutBlanks {t : Value × Value}
    (h : ∀ fields, t.2 = .map fields → SaysNoMore t.1 fields) :
    readEntry (withoutBlanks t).1 (withoutBlanks t).2 = readEntry t.1 t.2 := by
  obtain ⟨k, v⟩ := t
  cases v with
  | map fields => exact readEntry_filledFields (h fields rfl)
  | _ => rfl

theorem readEntries_withoutBlanks
    (h : ∀ t ∈ tables, ∀ fields, t.2 = .map fields → SaysNoMore t.1 fields) :
    readEntries (tables.map withoutBlanks) = readEntries tables := by
  induction tables with
  | nil => rfl
  | cons t tables ih =>
    obtain ⟨ht, htables⟩ := List.forall_mem_cons.mp h
    have hkey : (withoutBlanks t).1 = t.1 := by
      obtain ⟨k, v⟩ := t
      cases v <;> rfl
    rw [List.map_cons, readEntries, readEntries, ih htables, readEntry_withoutBlanks ht, hkey]

theorem saysNoMore_of_readEntries {entries : List (Value × Entry)}
    (h : readEntries tables = .ok entries)
    (h' : readEntries (tables.map withoutBlanks) = .ok entries) :
    ∀ t ∈ tables, ∀ fields, t.2 = .map fields → SaysNoMore t.1 fields := by
  have hall := readEntries_eq_ok.mp h
  have hall' := readEntries_eq_ok.mp h'
  rw [List.forall₂_map_left_iff] at hall'
  clear h h'
  induction hall with
  | nil => simp
  | cons he _ ih =>
    obtain ⟨he', hes'⟩ := List.forall₂_cons.mp hall'
    refine List.forall_mem_cons.mpr ⟨fun fields hf => ?_, ih hes'⟩
    have hread := he.2
    have hread' := he'.2
    rw [withoutBlanks, hf] at hread'
    rw [hf] at hread
    exact saysNoMore_of_readEntry hread hread'

theorem load_of_holdsTables (h : r.HoldsTables file tables) :
    r.load file = (readEntries tables).map fun entries =>
      { r with entries, loaded := true } := by
  obtain ⟨content, v, rfl, hv, ht⟩ := h
  rw [load, hv, Result.ok_bind, ht, Result.ok_bind]
  cases readEntries tables <;> rfl

/-- A file loads like the same one without its blank fields when only tables are blank, and those
under the key `None`, or when both are refused for the same reason; otherwise it does not. -/
theorem load_withoutBlanks_iff (h : r.HoldsTables file tables)
    (h' : r.HoldsTables file' (tables.map withoutBlanks)) :
    r.load file' = r.load file ↔
      (∀ t ∈ tables, ∀ fields, t.2 = .map fields → SaysNoMore t.1 fields) ∨
        ∃ e, r.load file = .error e ∧ r.load file' = .error e := by
  rw [load_of_holdsTables h, load_of_holdsTables h']
  constructor
  · intro hload
    cases hread : readEntries tables with
    | error e =>
      rw [hread] at hload
      exact .inr ⟨e, rfl, hload⟩
    | ok entries =>
      rw [hread] at hload
      obtain ⟨entries', hread', heq⟩ := Result.map_eq_ok.mp hload
      obtain rfl : entries' = entries := congrArg Registry.entries heq
      exact .inl (saysNoMore_of_readEntries hread hread')
  · rintro (hall | ⟨e, he, he'⟩)
    · rw [readEntries_withoutBlanks hall]
    · rw [he, he']

/-! ### A blank table -/

/-- A mapping file with one blank field of one entry. -/
def blankFile (field : String) : String :=
  "\x7b\"tables\": \x7b\"users\": \x7b\"" ++ field ++ "\": null\x7d\x7d\x7d"

/-- The same file with the field left out. -/
def bareFile : String := "\x7b\"tables\": \x7b\"users\": \x7b\x7d\x7d\x7d"

def blankRegistry : Registry := .ofFile "tables.json" 1000

/-- The entries of fields without values. -/
def blanks (fields : List String) : List (Value × Value) :=
  fields.map fun field => (.text field, .null)

/-- Whether entries are those of fields without values. -/
def areBlank : List String → List (Value × Value) → Bool
  | [], [] => true
  | field :: fields, (.text key, .null) :: entries => key == field && areBlank fields entries
  | _, _ => false

theorem eq_blanks_of_areBlank {fields : List String} {entries : List (Value × Value)}
    (h : areBlank fields entries = true) : entries = blanks fields := by
  fun_induction areBlank with
  | case1 => rfl
  | case2 field fields key entries ih =>
    obtain ⟨hkey, hentries⟩ := Bool.and_eq_true_iff.mp h
    rw [ih hentries, beq_iff_eq.mp hkey]
    rfl
  | case3 => contradiction

/-- Whether tables are one entity, all of whose fields are blank. -/
def isBlankEntity (name : String) (fields : List String) : List (Value × Value) → Bool
  | [(.text key, .map entries)] => key == name && areBlank fields entries
  | _ => false

theorem holdsTables_of_isBlankEntity {content : String} (name : String) (fields : List String)
    (h : (do
      let v ← parse r.path content
      tablesOf v).toOption.any (isBlankEntity name fields) = true) :
    r.HoldsTables (some content) [(.text name, .map (blanks fields))] := by
  cases hread : (do
    let v ← parse r.path content
    tablesOf v) with
  | error e =>
    rw [hread] at h
    contradiction
  | ok tables =>
    rw [hread] at h
    obtain ⟨v, hv, ht⟩ := Result.bind_eq_ok.mp hread
    have hblank : isBlankEntity name fields tables = true := h
    unfold isBlankEntity at hblank
    split at hblank
    · obtain ⟨hname, hfields⟩ := Bool.and_eq_true_iff.mp hblank
      rw [← beq_iff_eq.mp hname, ← eq_blanks_of_areBlank hfields]
      exact ⟨content, v, rfl, hv, ht⟩
    · cases hblank

theorem blankFile_holds (field : String) (hf : field ∈ ["table", "note"]) :
    blankRegistry.HoldsTables (some (blankFile field))
      [(.text "users", .map [(.text field, .null)])] := by
  obtain rfl | rfl : field = "table" ∨ field = "note" := by simpa using hf
  · exact holdsTables_of_isBlankEntity "users" ["table"] (by decide +kernel)
  · exact holdsTables_of_isBlankEntity "users" ["note"] (by decide +kernel)

theorem bareFile_holds : blankRegistry.HoldsTables (some bareFile) [(.text "users", .map [])] :=
  holdsTables_of_isBlankEntity "users" [] (by decide +kernel)

/-- An entity whose table is left blank has a table of another name than its own. -/
theorem blankTable_renamed : ∃ tables r r',
    blankRegistry.HoldsTables (some (blankFile "table")) tables ∧
      blankRegistry.HoldsTables (some bareFile) (tables.map withoutBlanks) ∧
      (∀ t ∈ tables, t.2 = .null ∨ ∃ fields, t.2 = .map fields) ∧
      blankRegistry.load (some (blankFile "table")) = .ok r ∧
      blankRegistry.load (some bareFile) = .ok r' ∧
      r.entry (.text "users") = .ok { table := "None" } ∧
      r'.entry (.text "users") = .ok { table := "users" } := by
  have hblank := blankFile_holds "table" (by simp)
  refine ⟨_,
    { blankRegistry with entries := [(.text "users", { table := "None" })], loaded := true },
    { blankRegistry with entries := [(.text "users", { table := "users" })], loaded := true },
    hblank, bareFile_holds, by simp, ?_, load_of_holdsTables bareFile_holds, rfl, rfl⟩
  exact load_of_holdsTables hblank

/-- A blank field that nothing is read from may be left out. -/
theorem blankNote_alike :
    blankRegistry.load (some bareFile) = blankRegistry.load (some (blankFile "note")) := by
  have hblank := blankFile_holds "note" (by simp)
  refine (load_withoutBlanks_iff hblank bareFile_holds).mpr (.inl ?_)
  simp only [List.forall_mem_singleton]
  rintro fields hfields
  obtain rfl := Value.map.inj hfields
  have hnone (key : String) (hkey : key ≠ "note") :
      Value.field? [(.text "note", .null)] key = none := by
    simp [Value.field?, Keyed.find?, Value.beq_text_iff, hkey.symm]
  exact ⟨by simp [hnone], by simp [hnone], fun h => by simp [hnone] at h⟩

end Registry

end RowQuery
