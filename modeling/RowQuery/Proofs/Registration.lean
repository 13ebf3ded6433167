import RowQuery.Proofs.Exchange
import RowQuery.Service.Service

/-! Registering entries and models. A mapping file is read, and a mapping of models checked, before
anything is replaced, so what fails on the way leaves the state as it was; and what succeeds has
done all of it, the last entry for a table being the one that counts. -/

namespace RowQuery

open Running

/-- What is run does all that it is ready for, and fails and does nothing when that is nothing. -/
structure AllOrNothing {σ α : Type} (a : ExceptT Error (StateM σ) Unit) (s : σ) (Ready : α → Prop)
    (Done : α → σ → Prop) : Prop where
  all : ∀ x, Ready x → ∃ t, a.run.run s = (.ok (), t) ∧ Done x t
  nothing : (∀ x, ¬ Ready x) → ∃ e, a.run.run s = (.error e, s)

/-! ### Models of a database -/

namespace Database

variable {w : World} {id : Nat} {d : Database}

/-- The entry names a table and holds a class that rows are read into. -/
def IsModelEntry (e : Value × Value) (m : String × Model) : Prop :=
  e = (.text m.1, .model m.2) ∧ m.1 ≠ ""

theorem readModels_cons_eq_ok {e : Value × Value} {entries : List (Value × Value)}
    {ms : List (String × Model)} : readModels (e :: entries) = .ok ms ↔
      ∃ m rest, IsModelEntry e m ∧ readModels entries = .ok rest ∧ ms = m :: rest := by
  obtain ⟨name, model⟩ := e
  constructor
  · intro h
    rw [readModels.eq_def] at h
    dsimp only at h
    split at h
    · split_ifs at h with hs
      split at h
      · obtain ⟨rest, hrest, rfl⟩ := Result.map_eq_ok.mp h
        refine ⟨_, rest, ⟨rfl, fun hn => hs ?_⟩, hrest, rfl⟩
        exact String.isEmpty_iff.mpr hn
      · cases h
    · cases h
  · rintro ⟨⟨s, m⟩, rest, ⟨he, hs⟩, hrest, rfl⟩
    obtain ⟨rfl, rfl⟩ := Prod.mk.inj he
    have hs' : s.isEmpty = false := by simpa using hs
    simp only [readModels, hs', hrest]
    rfl

/-- A mapping of models is accepted when each of its entries is one. -/
theorem readModels_eq_ok {entries : List (Value × Value)} {ms : List (String × Model)} :
    readModels entries = .ok ms ↔ List.Forall₂ IsModelEntry entries ms := by
  induction entries generalizing ms with
  | nil =>
    rw [List.forall₂_nil_left_iff]
    exact ⟨fun h => (Except.ok.inj h).symm, fun h => h ▸ rfl⟩
  | cons e entries ih =>
    rw [readModels_cons_eq_ok, List.forall₂_cons_left_iff]
    constructor
    · rintro ⟨m, rest, hm, hrest, rfl⟩
      exact ⟨m, rest, hm, ih.mp hrest, rfl⟩
    · rintro ⟨m, rest, hm, hrest, rfl⟩
      exact ⟨m, rest, hm, ih.mpr hrest, rfl⟩

theorem run_registerModels (id : Nat) (models : Value) (w : World) :
    (registerModels id models).run.run w = match w.databases[id]? with
      | none => (.error (.fault .index), w)
      | some d => match d.withModels models with
        | .ok e => (.ok (), { w with databases := w.databases.set id e })
        | .error e => (.error e, w) := by
  have hread := run_database id w
  cases hd : w.databases[id]? with
  | none =>
    rw [hd] at hread
    exact run_bind_of_error hread _
  | some d =>
    rw [hd] at hread
    rw [registerModels, run_bind_of_ok hread]
    dsimp only
    cases d.withModels models <;> rfl

end Database

namespace World

/-- The model that a database gives for the name of a table. -/
def modelOf (w : World) (id : Nat) (name : Value) : Except Error Model :=
  ((Database.modelForTable id name).run.run w).1

theorem modelOf_text (w : World) (id : Nat) (name : String) :
    w.modelOf id (.text name) = match w.databases[id]? with
      | some d => .ok (d.modelFor name)
      | none => .error (.fault .index) := by
  have hread := run_database id w
  unfold modelOf Database.modelForTable
  cases hd : w.databases[id]? with
  | none =>
    rw [hd] at hread
    rw [run_bind_of_error hread]
  | some d =>
    rw [hd] at hread
    rw [run_bind_of_ok hread]
    rfl

/-- The tables of these entries have their models in a database, the last one for a table counting,
and every other question for a model is answered as before. -/
structure Gains (id : Nat) (models : List (String × Model)) (w u : World) : Prop where
  named : ∀ name m, Keyed.find? models.reverse name = some m → u.modelOf id (.text name) = .ok m
  others : ∀ i v, (i = id → ∀ name, v = .text name → Keyed.find? models.reverse name = none) →
    u.modelOf i v = w.modelOf i v

theorem Gains.of_ofList {id : Nat} {models : List (String × Model)} {w u : World}
    (h : Gains id (Keyed.ofList models) w u) : Gains id models w u where
  named := by simpa only [Keyed.find?_reverse_ofList] using h.named
  others := by simpa only [Keyed.find?_reverse_ofList] using h.others

end World

namespace Database

variable {w : World} {id : Nat} {d : Database} {ms : List (String × Model)}

theorem gains_putAll (hd : w.databases[id]? = some d) (ms : List (String × Model)) :
    World.Gains id ms w { w with
      databases := w.databases.set id { d with models := Keyed.putAll d.models ms } } := by
  obtain ⟨hid, -⟩ := List.getElem?_eq_some_iff.mp hd
  constructor
  · intro name m hm
    rw [World.modelOf_text]
    simp only [List.getElem?_set_self hid, modelFor, Keyed.find?_putAll, hm]
    rfl
  · intro i v hv
    cases v with
    | text name =>
      rw [World.modelOf_text, World.modelOf_text]
      by_cases hi : i = id
      · subst hi
        have hm := hv rfl name rfl
        simp only [List.getElem?_set_self hid, modelFor, Keyed.find?_putAll, hm, hd,
          Option.none_or]
      · simp only [List.getElem?_set_ne (Ne.symm hi)]
    | _ => rfl

/-- A mapping of models that is not one from end to end changes nothing. -/
theorem registerModels_allOrNothing (id : Nat) (models : Value) (w : World) :
    AllOrNothing (registerModels id models) w
      (fun ms => id < w.databases.length ∧ ∃ entries, models = .map entries ∧
        List.Forall₂ IsModelEntry entries ms)
      fun ms u => World.Gains id ms w u where
  all := by
    rintro ms ⟨hid, entries, rfl, hms⟩
    have hd := List.getElem?_eq_getElem hid
    refine ⟨_, ?_, gains_putAll hd ms⟩
    rw [run_registerModels, hd]
    simp only [withModels, readModels_eq_ok.mpr hms]
  nothing := by
    intro hn
    rw [run_registerModels]
    cases hd : w.databases[id]? with
    | none => exact ⟨_, rfl⟩
    | some d =>
      dsimp only
      cases hm : d.withModels models with
      | error e => exact ⟨e, rfl⟩
      | ok e =>
        rw [withModels.eq_def] at hm
        split at hm
        · rename_i entries
          cases hr : readModels entries with
          | error e => rw [hr] at hm; cases hm
          | ok ms =>
            exact absurd ⟨(List.getElem?_eq_some_iff.mp hd).1, entries, rfl,
              readModels_eq_ok.mp hr⟩ (hn ms)
        · cases hm

end Database

/-! ### Entries of a registry -/

namespace Registry

variable {imports : Imports} {r : Registry} {w : World} {id : Nat}

/-- The models that entries name, with their tables. -/
def pathsOf (entries : List (Value × Entry)) : List (String × String) :=
  entries.filterMap fun e => e.2.model.map fun path => (e.2.table, path)

def modelPaths (r : Registry) : List (String × String) := pathsOf r.entries

/-- A model that is named for a table stands where its path leads. -/
def IsImported (imports : Imports) (p : String × String) (m : String × Model) : Prop :=
  m.1 = p.1 ∧ importModel imports p.2 = .ok m.2

theorem modelsOf_eq_ok {entries : List (Value × Entry)} {ms : List (String × Model)} :
    modelsOf imports entries = .ok ms ↔
      List.Forall₂ (IsImported imports) (pathsOf entries) ms := by
  induction entries generalizing ms with
  | nil =>
    rw [pathsOf, List.filterMap_nil, List.forall₂_nil_left_iff]
    exact ⟨fun h => (Except.ok.inj h).symm, fun h => h ▸ rfl⟩
  | cons e entries ih =>
    obtain ⟨k, table, model, maxLimit⟩ := e
    cases model with
    | none => exact ih
    | some path =>
      have hcons : pathsOf ((k, ⟨table, some path, maxLimit⟩) :: entries) =
          (table, path) :: pathsOf entries := rfl
      rw [hcons, List.forall₂_cons_left_iff, modelsOf, Result.bind_eq_ok]
      constructor
      · rintro ⟨m, hm, h⟩
        obtain ⟨rest, hrest, he⟩ := Result.bind_eq_ok.mp h
        exact ⟨(table, m), rest, ⟨rfl, hm⟩, ih.mp hrest, (Except.ok.inj he).symm⟩
      · rintro ⟨⟨_, m⟩, rest, ⟨rfl, hm⟩, hrest, rfl⟩
        exact ⟨m, hm, Result.bind_eq_ok.mpr ⟨rest, ih.mpr hrest, rfl⟩⟩

/-- The models of a registry, entry by entry: each stands where its path leads, and has a table. -/
def Models (imports : Imports) (r : Registry) (ms : List (String × Model)) : Prop :=
  List.Forall₂ (IsImported imports) r.modelPaths ms ∧ ∀ m ∈ ms, m.1 ≠ ""

theorem isModelEntry_map {ms : List (String × Model)} (h : ∀ m ∈ ms, m.1 ≠ "") :
    List.Forall₂ Database.IsModelEntry (ms.map fun m => (.text m.1, .model m.2)) ms := by
  rw [List.forall₂_map_left_iff, List.forall₂_same]
  exact fun m hm => ⟨rfl, h m hm⟩

theorem names_of_isModelEntry {ms ns : List (String × Model)}
    (h : List.Forall₂ Database.IsModelEntry (ms.map fun m => (.text m.1, .model m.2)) ns) :
    ∀ m ∈ ms, m.1 ≠ "" := by
  rw [List.forall₂_map_left_iff] at h
  induction h with
  | nil => simp
  | @cons m n ms ns hm _ ih =>
    have hname : m.1 = n.1 := Value.text.inj (Prod.mk.inj hm.1).1
    exact List.forall_mem_cons.mpr ⟨hname ▸ hm.2, ih⟩

theorem pathsOf_eq_nil {ms : List (String × Model)}
    (h : List.Forall₂ (IsImported imports) r.modelPaths ms) (hm : Keyed.ofList ms = []) :
    r.modelPaths = [] := by
  have hkeys : ∀ m ∈ ms, m.1 ∈ Keyed.keys (Keyed.ofList ms) := fun m hmem =>
    Keyed.mem_keys_ofList.mpr (List.mem_map_of_mem hmem)
  rw [hm] at hkeys
  obtain rfl := List.eq_nil_iff_forall_not_mem.mpr fun m hmem => by simpa using hkeys m hmem
  exact List.forall₂_nil_right_iff.mp h

/-- All models of a registry that can be imported are registered together. -/
theorem run_bind_of_models {ms : List (String × Model)} (h : r.models imports = .ok ms)
    (hms : ms ≠ []) : (r.bind imports id).run.run w =
      (Database.registerModels id
        (.map (ms.map fun m => (.text m.1, .model m.2)))).run.run w := by
  have hread : (Act.ofExcept (r.models imports)).run.run w = (.ok ms, w) := by rw [h]; rfl
  rw [bind, run_bind_of_ok hread]
  cases ms with
  | nil => contradiction
  | cons m ms => rfl

/-- A registry with a model that cannot be registered registers none of its models. -/
theorem bind_allOrNothing (imports : Imports) (r : Registry) (id : Nat) (w : World) :
    AllOrNothing (r.bind imports id) w
      (fun ms => r.Models imports ms ∧ (r.modelPaths ≠ [] → id < w.databases.length))
      fun ms u => World.Gains id ms w u := by
  cases hms : modelsOf imports r.entries with
  | error e =>
    have hread : (Act.ofExcept (r.models imports)).run.run w = (.error e, w) := by
      rw [models, hms]
      rfl
    refine ⟨fun ms h => ?_, fun _ => ⟨e, run_bind_of_error hread _⟩⟩
    cases hms.symm.trans (modelsOf_eq_ok.mpr h.1.1)
  | ok ms =>
    have hpaths : List.Forall₂ (IsImported imports) r.modelPaths ms := modelsOf_eq_ok.mp hms
    have hmodels : r.models imports = .ok (Keyed.ofList ms) := by rw [models, hms]; rfl
    have hunique : ∀ ns, r.Models imports ns → ns = ms := fun ns hns =>
      Except.ok.inj ((modelsOf_eq_ok.mpr hns.1).symm.trans hms)
    by_cases hlist : Keyed.ofList ms = []
    · -- no entry names a model, and nothing is left to do
      have hnil := pathsOf_eq_nil hpaths hlist
      rw [hnil, List.forall₂_nil_left_iff] at hpaths
      subst hpaths
      have hnone : r.Models imports [] := ⟨modelsOf_eq_ok.mp hms, by simp⟩
      have hread : (Act.ofExcept (r.models imports)).run.run w = (.ok [], w) := by
        rw [hmodels]
        rfl
      refine ⟨fun ns hns => ⟨w, run_bind_of_ok hread _, ?_⟩, fun hn => ?_⟩
      · obtain rfl := hunique ns hns.1
        exact ⟨fun _ _ h => (nomatch h), fun _ _ _ => rfl⟩
      · exact absurd ⟨hnone, fun h => absurd hnil h⟩ (hn [])
    · have hne : r.modelPaths ≠ [] := by
        intro hnil
        rw [hnil, List.forall₂_nil_left_iff] at hpaths
        exact hlist (by rw [hpaths]; rfl)
      have hnamed : (∀ m ∈ ms, m.1 ≠ "") ↔ ∀ m ∈ Keyed.ofList ms, m.1 ≠ "" := by
        have hkeys : "" ∈ Keyed.keys (Keyed.ofList ms) ↔ "" ∈ Keyed.keys ms := Keyed.mem_keys_ofList
        simp only [Keyed.keys, List.mem_map] at hkeys
        have hnot := not_congr hkeys
        push Not at hnot
        exact hnot.symm
      obtain ⟨hall, hnothing⟩ := Database.registerModels_allOrNothing id
        (.map ((Keyed.ofList ms).map fun m => (.text m.1, .model m.2))) w
      rw [← run_bind_of_models hmodels hlist] at hall hnothing
      constructor
      · rintro ns ⟨hns, hid⟩
        obtain rfl := hunique ns hns
        obtain ⟨u, hu, hgains⟩ :=
          hall (Keyed.ofList ns) ⟨hid hne, _, rfl, isModelEntry_map (hnamed.mp hns.2)⟩
        exact ⟨u, hu, hgains.of_ofList⟩
      · intro hn
        refine hnothing fun ks hks => ?_
        obtain ⟨hid, entries, he, hks⟩ := hks
        obtain rfl := Value.map.inj he
        exact hn ms ⟨⟨hpaths, hnamed.mpr (names_of_isModelEntry hks)⟩, fun _ => hid⟩

/-! ### Loading -/

/-- What a mapping file writes for a key of its tables. -/
def IsWrittenAs (t : Value × Value) (e : Value × Entry) : Prop :=
  e.1 = t.1 ∧ readEntry t.1 t.2 = .ok e.2

theorem readEntries_eq_ok {tables : List (Value × Value)} {entries : List (Value × Entry)} :
    readEntries tables = .ok entries ↔ List.Forall₂ IsWrittenAs tables entries := by
  induction tables generalizing entries with
  | nil =>
    rw [List.forall₂_nil_left_iff]
    exact ⟨fun h => (Except.ok.inj h).symm, fun h => h ▸ rfl⟩
  | cons t tables ih =>
    obtain ⟨k, v⟩ := t
    rw [List.forall₂_cons_left_iff, readEntries, Result.bind_eq_ok]
    constructor
    · rintro ⟨e, he, h⟩
      obtain ⟨rest, hrest, heq⟩ := Result.bind_eq_ok.mp h
      exact ⟨(k, e), rest, ⟨rfl, he⟩, ih.mp hrest, (Except.ok.inj heq).symm⟩
    · rintro ⟨⟨_, e⟩, rest, ⟨rfl, he⟩, hrest, rfl⟩
      exact ⟨e, he, Result.bind_eq_ok.mpr ⟨rest, ih.mpr hrest, rfl⟩⟩

/-- A mapping file is there, with these tables in this order. -/
def HoldsTables (r : Registry) (file : Option String) (tables : List (Value × Value)) : Prop :=
  ∃ content v, file = some content ∧ parse r.path content = .ok v ∧ tablesOf v = .ok tables

theorem load_eq_ok {file : Option String} {t : Registry} : r.load file = .ok t ↔
    ∃ tables entries, r.HoldsTables file tables ∧ List.Forall₂ IsWrittenAs tables entries ∧
      t = { r with entries, loaded := true } := by
  cases file with
  | none =>
    refine ⟨fun h => (nomatch h), ?_⟩
    rintro ⟨tables, entries, ⟨content, v, h, -⟩, -⟩
    cases h
  | some content =>
    rw [load, Result.bind_eq_ok]
    constructor
    · rintro ⟨v, hv, h⟩
      obtain ⟨tables, ht, h⟩ := Result.bind_eq_ok.mp h
      obtain ⟨entries, he, h⟩ := Result.bind_eq_ok.mp h
      exact ⟨tables, entries, ⟨content, v, rfl, hv, ht⟩, readEntries_eq_ok.mp he,
        (Except.ok.inj h).symm⟩
    · rintro ⟨tables, entries, ⟨_, v, hfile, hv, ht⟩, he, rfl⟩
      obtain rfl := Option.some.inj hfile
      exact ⟨v, hv, Result.bind_eq_ok.mpr ⟨tables, ht,
        Result.bind_eq_ok.mpr ⟨entries, readEntries_eq_ok.mpr he, rfl⟩⟩⟩

end Registry

namespace Registry

/-- What names the table of an entry: its own field, or its key. -/
def tableName (t : Value × Value) : Value :=
  match t.2 with
  | .map fields => (Value.field? fields "table").getD t.1
  | _ => t.1

theorem written_eq_ok {v : Value} {s : String} (h : v.written = .ok s) : s = v.display := by
  unfold Value.written at h
  split_ifs at h
  exact (Except.ok.inj h).symm

/-- What a field holds, if the entry has it. -/
def readField {α : Type} (read : Value → Except Error α) : Option Value → Except Error (Option α)
  | none => .ok none
  | some v => (read v).map some

theorem readEntry_map (key : Value) (fields : List (Value × Value)) :
    readEntry key (.map fields) = (do
      let table ← ((Value.field? fields "table").getD key).written
      let model ← readField Value.written (Value.field? fields "model")
      let maxLimit ← readField Value.integer (Value.field? fields "maxLimit")
      return { table, model, maxLimit }) := by
  rw [readEntry]
  cases Value.field? fields "model" <;> cases Value.field? fields "maxLimit" <;> rfl

theorem IsWrittenAs.table_eq {t : Value × Value} {e : Value × Entry} (h : IsWrittenAs t e) :
    e.2.table = (tableName t).display := by
  obtain ⟨k, v⟩ := t
  obtain ⟨j, e⟩ := e
  obtain ⟨-, hread⟩ := h
  cases v with
  | null =>
    obtain ⟨table, htable, h⟩ := Result.bind_eq_ok.mp hread
    obtain rfl := Except.ok.inj h
    exact written_eq_ok htable
  | map fields =>
    rw [readEntry_map] at hread
    obtain ⟨table, htable, h⟩ := Result.bind_eq_ok.mp hread
    obtain ⟨model, -, h⟩ := Result.bind_eq_ok.mp h
    obtain ⟨maxLimit, -, h⟩ := Result.bind_eq_ok.mp h
    obtain rfl := Except.ok.inj h
    exact written_eq_ok htable
  | _ =>
    simp only [readEntry] at hread
    split_ifs at hread
    all_goals cases hread

theorem keys_eq {tables : List (Value × Value)} {entries : List (Value × Entry)}
    (h : List.Forall₂ IsWrittenAs tables entries) : Keyed.keys entries = Keyed.keys tables := by
  induction h with
  | nil => rfl
  | cons he _ ih => rw [Keyed.keys_cons, Keyed.keys_cons, he.1, ih]

end Registry

/-- A mapping file gives these tables, and these entries for them. -/
def Registry.Gives (r : Registry) (file : Option String)
    (x : List (Value × Value) × List (Value × Entry)) : Prop :=
  r.HoldsTables file x.1 ∧ List.Forall₂ IsWrittenAs x.1 x.2

/-- A file that cannot be read from end to end replaces nothing. -/
theorem Service.load_allOrNothing (s : State) : AllOrNothing load s (s.registry.Gives s.file)
    fun x t => t = { s with registry := { s.registry with entries := x.2, loaded := true } } := by
  have hget : (get : Serving State).run.run s = (.ok s, s) := rfl
  rw [load]
  constructor
  · rintro ⟨tables, entries⟩ ⟨ht, he⟩
    rw [run_bind_of_ok hget, Registry.load_eq_ok.mpr ⟨tables, entries, ht, he, rfl⟩]
    exact ⟨_, rfl, rfl⟩
  · intro hn
    rw [run_bind_of_ok hget]
    cases hload : s.registry.load s.file with
    | error e => exact ⟨e, rfl⟩
    | ok r =>
      obtain ⟨tables, entries, ht, he, -⟩ := Registry.load_eq_ok.mp hload
      exact absurd ⟨ht, he⟩ (hn (tables, entries))

/-- A load replaces all entries by those of its file, one for each key in the order of the file and
each with a table, when the file can be read from end to end. The models of a registry are
registered when all of them can be imported and each has a table, the last entry for a table
counting; a mapping of models is registered when all of its entries are good. What cannot be done as
a whole leaves the state as it was. -/
theorem registered_all_or_nothing (imports : Imports) :
    (∀ s : Service.State, AllOrNothing Service.load s (s.registry.Gives s.file) fun x t =>
      t = { s with registry := { s.registry with entries := x.2, loaded := true } } ∧
        Keyed.keys x.2 = Keyed.keys x.1 ∧
        List.Forall₂ (fun t e => e.2.table = (Registry.tableName t).display) x.1 x.2) ∧
    (∀ (r : Registry) id w, AllOrNothing (r.bind imports id) w
      (fun ms => r.Models imports ms ∧ (r.modelPaths ≠ [] → id < w.databases.length))
      fun ms u => World.Gains id ms w u) ∧
    ∀ id models w, AllOrNothing (Database.registerModels id models) w
      (fun ms => id < w.databases.length ∧ ∃ entries, models = .map entries ∧
        List.Forall₂ Database.IsModelEntry entries ms)
      fun ms u => World.Gains id ms w u := by
  refine ⟨fun s => ?_, fun r id w => r.bind_allOrNothing imports id w,
    fun id models w => Database.registerModels_allOrNothing id models w⟩
  obtain ⟨hall, hnothing⟩ := Service.load_allOrNothing s
  refine ⟨fun x hx => ?_, hnothing⟩
  obtain ⟨t, hrun, ht⟩ := hall x hx
  exact ⟨t, hrun, ht, Registry.keys_eq hx.2, hx.2.imp fun _ _ h => h.table_eq⟩

/-- Rows with a number and a name. -/
def shopUser : Model := { name := "User", fields := [⟨"id", .optionalInteger⟩, ⟨"name", .text⟩] }

def shopImports : Imports := fun place name =>
  if place = "shop.rows" ∧ name = "User" then .ok (.model shopUser) else .error .moduleNotFound

/-- A service whose mapping file names one table, and one model. -/
def shopService (model : String) : Service.State where
  registry := .ofFile "tables.json" 1000
  file := some ("\x7b\"tables\": \x7b\"users\": \x7b\"table\": \"app_users\", \"model\": \"" ++ model ++
    "\"\x7d, \"orders\": null\x7d\x7d")
  databaseUrl := ""
  imports := shopImports

/-- The file of the service is read, whichever model it names. -/
theorem shopService_gives (model : String)
    (hm : model ∈ ["shop.rows:User", "shop.rows:Ghost"]) :
    ∃ x, (shopService model).registry.Gives (shopService model).file x ∧
      x.2.map (·.2) = [{ table := "app_users", model := some model }, { table := "orders" }] := by
  have h : ((shopService model).registry.load (shopService model).file).toOption.any (fun r =>
      r.entries.map (·.2) ==
        [{ table := "app_users", model := some model }, { table := "orders" }]) = true := by
    obtain rfl | rfl : model = "shop.rows:User" ∨ model = "shop.rows:Ghost" := by simpa using hm
    all_goals decide +kernel
  cases hload : (shopService model).registry.load (shopService model).file with
  | error e =>
    rw [hload] at h
    contradiction
  | ok r =>
    rw [hload] at h
    obtain ⟨tables, entries, ht, he, rfl⟩ := Registry.load_eq_ok.mp hload
    exact ⟨(tables, entries), ⟨ht, he⟩, beq_iff_eq.mp h⟩

/-- A database that knows no models. -/
def bareShop : World := { databases := [{ name := "shop" }] }

/-- A file with a model that can be imported is registered, and of one with a model that cannot be
nothing is. -/
theorem shopUsers_registered :
    (∃ t u, Service.load.run.run (shopService "shop.rows:User") = (.ok (), t) ∧
      t.registry.loaded = true ∧ t.registry.entries.length = 2 ∧
      (t.registry.bind shopImports 0).run.run bareShop = (.ok (), u) ∧
      u.modelOf 0 (.text "app_users") = .ok shopUser ∧
      u.modelOf 0 (.text "orders") = bareShop.modelOf 0 (.text "orders")) ∧
    ∃ t e, Service.load.run.run (shopService "shop.rows:Ghost") = (.ok (), t) ∧
      t.registry.modelPaths = [("app_users", "shop.rows:Ghost")] ∧
      (t.registry.bind shopImports 0).run.run bareShop = (.error e, bareShop) := by
  obtain ⟨hload, hbind, -⟩ := registered_all_or_nothing shopImports
  have hpaths : ∀ (r : Registry) (model : String), r.entries.map (·.2) =
      [{ table := "app_users", model := some model }, { table := "orders" }] →
      r.modelPaths = [("app_users", model)] := by
    intro r model h
    have hmap : r.modelPaths = (r.entries.map (·.2)).filterMap fun e =>
        e.model.map fun path => (e.table, path) := by
      rw [List.filterMap_map]
      rfl
    rw [hmap, h]
    rfl
  constructor
  · obtain ⟨x, hx, hes⟩ := shopService_gives "shop.rows:User" (by simp)
    obtain ⟨t, hrun, ht, -⟩ := (hload _).all x hx
    have hp := hpaths t.registry _ (by rw [ht]; exact hes)
    have hmodels : t.registry.Models shopImports [("app_users", shopUser)] := by
      refine ⟨?_, by simp⟩
      rw [hp]
      exact .cons ⟨rfl, rfl⟩ .nil
    obtain ⟨u, hu, hgains⟩ := (hbind t.registry 0 bareShop).all _ ⟨hmodels, fun _ => by decide⟩
    have hlength : t.registry.entries.length = 2 := by
      have := congrArg List.length hes
      rw [ht]
      simpa using this
    exact ⟨t, u, hrun, by rw [ht], hlength, hu, hgains.named _ _ rfl,
      hgains.others 0 _ fun _ name hname => Value.text.inj hname ▸ rfl⟩
  · obtain ⟨x, hx, hes⟩ := shopService_gives "shop.rows:Ghost" (by simp)
    obtain ⟨t, hrun, ht, -⟩ := (hload _).all x hx
    have hp := hpaths t.registry _ (by rw [ht]; exact hes)
    obtain ⟨e, he⟩ := (hbind t.registry 0 bareShop).nothing fun ms hms => by
      obtain ⟨⟨hms, -⟩, -⟩ := hms
      rw [hp, List.forall₂_cons_left_iff] at hms
      obtain ⟨m, -, ⟨-, hm⟩, -⟩ := hms
      cases hm
    exact ⟨t, e, hrun, hp, he⟩

end RowQuery
