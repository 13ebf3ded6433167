import RowQuery.Database.World
import RowQuery.Proofs.Result

/-! Runs of what may fail and change a state. A sequence of two stops where the first one fails, and
else goes on from the state the first one left. -/

namespace RowQuery.Running

variable {ε σ α β : Type} {s : σ}

theorem run_bind (a : ExceptT ε (StateM σ) α) (f : α → ExceptT ε (StateM σ) β) :
    (a >>= f).run.run s = match a.run.run s with
      | (.ok x, t) => (f x).run.run t
      | (.error e, t) => (.error e, t) := by
  have h : (a >>= f).run.run s = (match (a.run.run s).1 with
      | .ok x => (f x).run.run (a.run.run s).2
      | .error e => (.error e, (a.run.run s).2)) := by
    change (ExceptT.bindCont f (a.run.run s).1).run (a.run.run s).2 = _
    cases (a.run.run s).1 <;> rfl
  rw [h]
  rcases a.run.run s with ⟨x | e, t⟩ <;> rfl

theorem run_bind_of_ok {a : ExceptT ε (StateM σ) α} {x : α} {t : σ} (h : a.run.run s = (.ok x, t))
    (f : α → ExceptT ε (StateM σ) β) : (a >>= f).run.run s = (f x).run.run t := by
  rw [run_bind, h]

theorem run_bind_of_error {a : ExceptT ε (StateM σ) α} {e : ε} {t : σ}
    (h : a.run.run s = (.error e, t)) (f : α → ExceptT ε (StateM σ) β) :
    (a >>= f).run.run s = (.error e, t) := by
  rw [run_bind, h]

theorem run_bind_eq_ok {a : ExceptT ε (StateM σ) α} {f : α → ExceptT ε (StateM σ) β} {y : β}
    {u : σ} : (a >>= f).run.run s = (.ok y, u) ↔
      ∃ x t, a.run.run s = (.ok x, t) ∧ (f x).run.run t = (.ok y, u) := by
  constructor
  · intro h
    rw [run_bind] at h
    split at h
    · rename_i x t ha
      exact ⟨x, t, ha, h⟩
    · cases h
  · rintro ⟨x, t, ha, hf⟩
    rw [run_bind_of_ok ha, hf]

theorem run_eq_of_toOption {a : ExceptT ε (StateM σ) α} {x : α}
    (h : (a.run.run s).1.toOption = some x) : a.run.run s = (.ok x, (a.run.run s).2) := by
  rcases hrun : a.run.run s with ⟨e | y, t⟩ <;> rw [hrun] at h
  · cases h
  · rw [Option.some.inj h]

/-- A handler goes on from the state a failure left. -/
theorem run_tryCatch (a : ExceptT ε (StateM σ) α) (f : ε → ExceptT ε (StateM σ) α) :
    (tryCatch a f).run.run s = match a.run.run s with
      | (.ok x, t) => (.ok x, t)
      | (.error e, t) => (f e).run.run t := by
  have h : (tryCatch a f).run.run s = (match (a.run.run s).1 with
      | .ok x => (.ok x, (a.run.run s).2)
      | .error e => (f e).run.run (a.run.run s).2) := by
    change ((match (a.run.run s).1 with
      | .ok x => pure (.ok x)
      | .error e => (f e).run : StateM σ (Except ε α))).run (a.run.run s).2 = _
    cases (a.run.run s).1 <;> rfl
  rw [h]
  rcases a.run.run s with ⟨x | e, t⟩ <;> rfl

/-! ### States before and after -/

/-- From a state, what is run ends in a related one, whether it fails or not. -/
def Keeps (R : σ → σ → Prop) (a : ExceptT ε (StateM σ) α) (s : σ) : Prop := R s (a.run.run s).2

/-- What is run leaves a state as it is. -/
def Reads (a : ExceptT ε (StateM σ) α) (s : σ) : Prop := (a.run.run s).2 = s

variable {a : ExceptT ε (StateM σ) α} {f : α → ExceptT ε (StateM σ) β}

namespace Reads

theorem pure (x : α) (s : σ) : Reads (pure x : ExceptT ε (StateM σ) α) s := rfl

theorem throw (e : ε) (s : σ) : Reads (throw e : ExceptT ε (StateM σ) α) s := rfl

theorem eq_of_run {t : σ} {r : Except ε α} (ha : Reads a s) (h : a.run.run s = (r, t)) : t = s := by
  unfold Reads at ha
  rw [h] at ha
  exact ha

theorem bind (ha : Reads a s) (hf : ∀ x, a.run.run s = (.ok x, s) → Reads (f x) s) :
    Reads (a >>= f) s := by
  rcases h : a.run.run s with ⟨e | x, t⟩ <;> obtain rfl := ha.eq_of_run h
  · rw [Reads, run_bind_of_error h]
  · rw [Reads, run_bind_of_ok h]
    exact hf x h

theorem run_bind_eq_ok (ha : Reads a s) {y : β} {u : σ} : (a >>= f).run.run s = (.ok y, u) ↔
    ∃ x, a.run.run s = (.ok x, s) ∧ (f x).run.run s = (.ok y, u) := by
  rw [Running.run_bind_eq_ok]
  constructor
  · rintro ⟨x, t, hx, hf⟩
    obtain rfl := ha.eq_of_run hx
    exact ⟨x, hx, hf⟩
  · rintro ⟨x, hx, hf⟩
    exact ⟨x, s, hx, hf⟩

/-- What only reads does not change where a run ends. -/
theorem snd_run_bind (hf : ∀ x t, Reads (f x) t) (a : ExceptT ε (StateM σ) α) (s : σ) :
    ((a >>= f).run.run s).2 = (a.run.run s).2 := by
  rw [run_bind]
  rcases a.run.run s with ⟨e | x, t⟩
  · rfl
  · exact hf x t

theorem snd_run_tryCatch {f : ε → ExceptT ε (StateM σ) α} (hf : ∀ e t, Reads (f e) t)
    (a : ExceptT ε (StateM σ) α) (s : σ) : ((tryCatch a f).run.run s).2 = (a.run.run s).2 := by
  rw [run_tryCatch]
  rcases a.run.run s with ⟨e | x, t⟩
  · exact hf e t
  · rfl

end Reads

namespace Keeps

variable {R : σ → σ → Prop}

theorem of_run {r : Except ε α} {t : σ} (ha : Keeps R a s) (h : a.run.run s = (r, t)) : R s t := by
  unfold Keeps at ha
  rwa [h] at ha

theorem mono {S : σ → σ → Prop} (ha : Keeps R a s) (h : ∀ t, R s t → S s t) : Keeps S a s := h _ ha

theorem of_reads [Std.Refl R] (ha : Reads a s) : Keeps R a s := by
  unfold Keeps
  rw [show (a.run.run s).2 = s from ha]
  exact Std.Refl.refl s

theorem pure [Std.Refl R] (x : α) (s : σ) : Keeps R (pure x : ExceptT ε (StateM σ) α) s :=
  of_reads (.pure x s)

theorem throw [Std.Refl R] (e : ε) (s : σ) : Keeps R (throw e : ExceptT ε (StateM σ) α) s :=
  of_reads (.throw e s)

/-- The two steps may be of different kinds. -/
theorem bind_of {S T : σ → σ → Prop} (ha : Keeps R a s)
    (hf : ∀ x t, a.run.run s = (.ok x, t) → Keeps S (f x) t) (hR : ∀ t, R s t → T s t)
    (hRS : ∀ t u, R s t → S t u → T s u) : Keeps T (a >>= f) s := by
  unfold Keeps at *
  rcases h : a.run.run s with ⟨e | x, t⟩ <;> rw [h] at ha
  · rw [run_bind_of_error h]
    exact hR t ha
  · rw [run_bind_of_ok h]
    exact hRS t _ ha (hf x t h)

/-- The second step starts from the state that the first one leaves when it succeeds. -/
theorem bind [IsTrans σ R] (ha : Keeps R a s)
    (hf : ∀ x t, a.run.run s = (.ok x, t) → Keeps R (f x) t) : Keeps R (a >>= f) s :=
  ha.bind_of hf (fun _ h => h) fun _ _ h => trans_of R h

theorem bind_reads [Std.Refl R] (ha : Reads a s)
    (hf : ∀ x, a.run.run s = (.ok x, s) → Keeps R (f x) s) : Keeps R (a >>= f) s := by
  rcases h : a.run.run s with ⟨e | x, t⟩ <;> obtain rfl := ha.eq_of_run h
  · rw [Keeps, run_bind_of_error h]
    exact Std.Refl.refl t
  · rw [Keeps, run_bind_of_ok h]
    exact hf x h

theorem tryCatch [IsTrans σ R] {f : ε → ExceptT ε (StateM σ) α} (ha : Keeps R a s)
    (hf : ∀ e t, a.run.run s = (.error e, t) → Keeps R (f e) t) : Keeps R (tryCatch a f) s := by
  unfold Keeps at *
  rw [run_tryCatch]
  rcases h : a.run.run s with ⟨e | x, t⟩ <;> rw [h] at ha
  · exact trans_of R ha (hf e t h)
  · exact ha

theorem mapM [Std.Refl R] [IsTrans σ R] {xs : List α} {f : α → ExceptT ε (StateM σ) β}
    (hf : ∀ x ∈ xs, ∀ t, Keeps R (f x) t) (s : σ) : Keeps R (xs.mapM f) s := by
  induction xs generalizing s with
  | nil =>
    rw [List.mapM_nil]
    exact pure [] s
  | cons x xs ih =>
    rw [List.mapM_cons]
    refine bind (hf x List.mem_cons_self s) fun y t _ => ?_
    refine bind (ih (fun z hz => hf z (List.mem_cons_of_mem x hz)) t) fun ys u _ => ?_
    exact pure (y :: ys) u

end Keeps

/-! ### Errors -/

/-- What is run fails with errors that satisfy `P` only. -/
def Fails (P : ε → Prop) (a : ExceptT ε (StateM σ) α) : Prop :=
  ∀ s, Result.Fails P (a.run.run s).1

namespace Fails

variable {P : ε → Prop}

theorem pure (x : α) : Fails P (pure x : ExceptT ε (StateM σ) α) := fun _ => .ok x

theorem bind (ha : Fails P a) (hf : ∀ x, Fails P (f x)) : Fails P (a >>= f) := by
  intro s
  rw [run_bind]
  rcases h : a.run.run s with ⟨e | x, t⟩
  · exact .error (ha s e (congrArg Prod.fst h))
  · exact hf x t

theorem mapM {xs : List α} {f : α → ExceptT ε (StateM σ) β} (hf : ∀ x, Fails P (f x)) :
    Fails P (xs.mapM f) := by
  induction xs with
  | nil =>
    rw [List.mapM_nil]
    exact pure []
  | cons x xs ih =>
    rw [List.mapM_cons]
    exact (hf x).bind fun y => ih.bind fun ys => pure (y :: ys)

end Fails

/-- A failure comes from the first step when the second one cannot fail. -/
theorem error_of_bind {e : ε} {t : σ} (hf : ∀ x, Fails (fun _ => False) (f x))
    (h : (a >>= f).run.run s = (.error e, t)) : a.run.run s = (.error e, t) := by
  rw [run_bind] at h
  split at h
  · rename_i x u hx
    exact (hf x u e (congrArg Prod.fst h)).elim
  · rename_i hd
    cases h
    exact hd

/-! ### Acts -/

theorem ofExcept_bind (x : Except Error α) (f : α → Except Error β) :
    Act.ofExcept (x >>= f) = Act.ofExcept x >>= fun a => Act.ofExcept (f a) := by
  cases x <;> rfl

/-- What needs nothing of the world leaves the world as it is. -/
theorem run_ofExcept_bind_eq_ok {w u : World} {r : Except Error α} {f : α → Act β} {y : β} :
    (Act.ofExcept r >>= f).run.run w = (.ok y, u) ↔
      ∃ x, r = .ok x ∧ (f x).run.run w = (.ok y, u) := by
  rw [run_bind_eq_ok]
  constructor
  · rintro ⟨x, t, hr, hf⟩
    obtain ⟨hx, rfl⟩ := Prod.mk.inj hr
    exact ⟨x, hx, hf⟩
  · rintro ⟨x, rfl, hf⟩
    exact ⟨x, w, rfl, hf⟩

/-- A table gets the next number, and a name with a character at least. -/
theorem run_addTable_eq_ok {name : String} {database : Option Nat} {w u : World} {t : Table} :
    (World.addTable (.text name) database).run.run w = (.ok t, u) ↔
      name ≠ "" ∧ t = { id := w.nextTable, name, database } ∧
        u = { w with nextTable := w.nextTable + 1 } := by
  rw [World.addTable]
  by_cases hn : name = ""
  · have he : name.isEmpty = true := by rw [hn]; rfl
    simp only [he, ↓reduceIte]
    constructor
    · intro h
      cases h
    · rintro ⟨h, -⟩
      exact absurd hn h
  · have he : name.isEmpty = false := by simpa using hn
    simp only [he, Bool.false_eq_true, ↓reduceIte]
    constructor
    · intro h
      obtain ⟨ht, rfl⟩ := Prod.mk.inj h
      exact ⟨hn, (Except.ok.inj ht).symm, rfl⟩
    · rintro ⟨-, rfl, rfl⟩
      rfl

end RowQuery.Running
