import RowQuery.Value.Equality
import Mathlib.Data.Fintype.EquivFin
import Mathlib.Data.List.Forall2
import Mathlib.Data.Rat.Cast.Defs
import Mathlib.Tactic.Positivity

/-! When equality of values is an equivalence. Numbers of all types are compared by the number they
are, so truth values, integers and doubles are compared with one another and still fall into
classes. A nan breaks this, and so would a mapping with two entries under one key; without them
equality is reflexive, symmetric and transitive, through lists, tuples, mappings, sets and
conditions. -/

namespace RowQuery

/-- At `a` a relation behaves as an equality. -/
structure EquatesAt {α : Type} (r : α → α → Prop) (a : α) : Prop where
  refl : r a a
  symm : ∀ b, r a b → r b a
  trans : ∀ b c, r a b → r b c → r a c

namespace EquatesAt

variable {α β : Type} {r : α → α → Prop} {s : β → β → Prop}

theorem eq (a : α) : EquatesAt Eq a := ⟨rfl, fun _ => Eq.symm, fun _ _ => Eq.trans⟩

theorem prod {a : α} {b : β} (ha : EquatesAt r a) (hb : EquatesAt s b) :
    EquatesAt (fun p q : α × β => r p.1 q.1 ∧ s p.2 q.2) (a, b) where
  refl := ⟨ha.refl, hb.refl⟩
  symm _ h := ⟨ha.symm _ h.1, hb.symm _ h.2⟩
  trans _ _ h k := ⟨ha.trans _ _ h.1 k.1, hb.trans _ _ h.2 k.2⟩

/-- What is equal to something made by `f` only when it is made by `f` from equal parts. -/
theorem of_iff {f : β → α} (h : ∀ x a, r (f x) a ↔ ∃ y, a = f y ∧ s x y) {x : β}
    (hx : EquatesAt s x) : EquatesAt r (f x) where
  refl := (h x _).mpr ⟨x, rfl, hx.refl⟩
  symm a ha := by
    obtain ⟨y, rfl, hy⟩ := (h x a).mp ha
    exact (h y _).mpr ⟨x, rfl, hx.symm y hy⟩
  trans a b ha hb := by
    obtain ⟨y, rfl, hy⟩ := (h x a).mp ha
    obtain ⟨z, rfl, hz⟩ := (h y b).mp hb
    exact (h x _).mpr ⟨z, rfl, hx.trans y z hy hz⟩

/-- Lists are compared item by item. -/
theorem forall₂ {xs : List α} (h : ∀ x ∈ xs, EquatesAt r x) :
    EquatesAt (List.Forall₂ r) xs := by
  induction xs with
  | nil =>
    refine ⟨.nil, fun ys hys => ?_, fun ys zs hys hzs => ?_⟩
    · rw [List.forall₂_nil_left_iff.mp hys]
      exact .nil
    · rw [List.forall₂_nil_left_iff.mp hys] at hzs
      exact hzs
  | cons x xs ih =>
    obtain ⟨hx, hxs⟩ := List.forall_mem_cons.mp h
    have ih := ih hxs
    refine ⟨.cons hx.refl ih.refl, fun ys hys => ?_, fun ys zs hys hzs => ?_⟩
    · obtain ⟨y, ws, hy, hws, rfl⟩ := List.forall₂_cons_left_iff.mp hys
      exact .cons (hx.symm y hy) (ih.symm ws hws)
    · obtain ⟨y, ws, hy, hws, rfl⟩ := List.forall₂_cons_left_iff.mp hys
      obtain ⟨z, us, hz, hus, rfl⟩ := List.forall₂_cons_left_iff.mp hzs
      exact .cons (hx.trans y z hy hz) (ih.trans ws us hws hus)

/-- Lists of one length, compared in any order. -/
def Among (r : α → α → Prop) (xs ys : List α) : Prop :=
  xs.length = ys.length ∧ ∀ x ∈ xs, ∃ y ∈ ys, r x y

/-- When no two items are equal, each is found under a place of its own, so all places are taken. -/
theorem among {xs : List α} (hxs : xs.Pairwise fun x y => ¬ r x y)
    (h : ∀ x ∈ xs, EquatesAt r x) : EquatesAt (Among r) xs where
  refl := ⟨rfl, fun x hx => ⟨x, hx, (h x hx).refl⟩⟩
  symm ys hys := by
    obtain ⟨hlen, hfound⟩ := hys
    have hplace : ∀ i : Fin xs.length, ∃ j : Fin ys.length, r (xs.get i) (ys.get j) := by
      intro i
      obtain ⟨y, hy, hr⟩ := hfound (xs.get i) (List.get_mem xs i)
      obtain ⟨j, rfl⟩ := List.get_of_mem hy
      exact ⟨j, hr⟩
    choose place hplace using hplace
    have hapart : ∀ i j, i < j → place i ≠ place j := by
      intro i j hij hp
      have hi := h _ (List.get_mem xs i)
      have hj := h _ (List.get_mem xs j)
      refine List.pairwise_iff_get.mp hxs i j hij (hi.trans _ _ (hplace i) ?_)
      rw [hp]
      exact hj.symm _ (hplace j)
    have hinj : Function.Injective place := by
      intro i j hp
      rcases lt_trichotomy i j with hij | rfl | hij
      · exact absurd hp (hapart i j hij)
      · rfl
      · exact absurd hp.symm (hapart j i hij)
    have hsurj : Function.Surjective place :=
      hinj.surjective_of_finite (finCongr hlen)
    refine ⟨hlen.symm, fun y hy => ?_⟩
    obtain ⟨j, rfl⟩ := List.get_of_mem hy
    obtain ⟨i, rfl⟩ := hsurj j
    exact ⟨xs.get i, List.get_mem xs i, (h _ (List.get_mem xs i)).symm _ (hplace i)⟩
  trans ys zs hys hzs := by
    refine ⟨hys.1.trans hzs.1, fun x hx => ?_⟩
    obtain ⟨y, hy, hxy⟩ := hys.2 x hx
    obtain ⟨z, hz, hyz⟩ := hzs.2 y hy
    exact ⟨z, hz, (h x hx).trans y z hxy hyz⟩

end EquatesAt

/-! ### Doubles as fractions -/

namespace Double

variable {x : Double} {n : Int}

/-- A finite double is a fraction. -/
theorem toFraction?_finite (negative : Bool) (m : Nat) (e : Int) :
    ∃ (k : Int) (d : Nat), (finite negative m e).toFraction? = some (k, d) ∧ 0 < d ∧
      (k = 0 ↔ m = 0) := by
  have hpow : ∀ i : Nat, 0 < Nat.pow 2 i := fun i => Nat.pow_pos (by decide)
  by_cases he : e < 0
  · refine ⟨if negative then -(m : Int) else m, Nat.pow 2 (-e).toNat, ?_, hpow _, ?_⟩
    · simp [toFraction?, he]
    · split_ifs <;> omega
  · refine ⟨if negative then -((m * Nat.pow 2 e.toNat : Nat) : Int) else
      ((m * Nat.pow 2 e.toNat : Nat) : Int), 1, ?_, Nat.one_pos, ?_⟩
    · simp [toFraction?, he]
    · have hp := hpow e.toNat
      have hm : m * Nat.pow 2 e.toNat = 0 ↔ m = 0 := by
        rw [Nat.mul_eq_zero]
        omega
      split_ifs <;> omega

/-- A double that is an integer, as a fraction. -/
theorem toInt?_eq_some (h : x.toInt? = some n) : ∃ negative m e, ∃ d : Nat,
    x = .finite negative m e ∧ x.toFraction? = some (n * d, d) ∧ 0 < d ∧ (n = 0 ↔ m = 0) := by
  unfold toInt? at h
  split at h
  · rename_i k d hx
    split_ifs at h with hd
    obtain rfl := Option.some.inj h
    cases x with
    | finite negative m e =>
      obtain ⟨l, c, hf, hc, hm⟩ := toFraction?_finite negative m e
      obtain ⟨rfl, rfl⟩ := Prod.mk.inj (Option.some.inj (hx.symm.trans hf))
      have hk : k / (d : Int) * d = k := Int.ediv_mul_cancel (Int.dvd_of_emod_eq_zero hd)
      refine ⟨negative, m, e, d, rfl, by rw [hk, hf], hc, ?_⟩
      rw [← hm]
      constructor
      · intro h0
        rw [h0, Int.zero_mul] at hk
        exact hk.symm
      · intro h0
        rw [h0, Int.zero_ediv]
    | nan => contradiction
    | infinite negative => contradiction
  · contradiction

end Double

/-! ### What values without parts are compared by -/

attribute [simp] Value.same Condition.same

/-- What a value without parts is compared by: numbers of all types by the number. -/
inductive Scalar
  | null
  | number (q : ℚ)
  | infinite (negative : Bool)
  | text (s : String)
  | bytes (bs : List UInt8)
  | instant (t : Int)
  | date (d : Date)
  | again (isMap : Bool)
  | model (name : String)
  | otherClass (name : String)
  | table (t : TableReference)

namespace Double

variable {x y : Double} {n : Int}

/-- A nan is compared by nothing. -/
def scalar? : Double → Option Scalar
  | .nan => none
  | .infinite negative => some (.infinite negative)
  | x => x.toFraction?.map fun (n, d) => .number (n / d)

/-- A finite double stands for a number. -/
theorem scalar?_finite (negative : Bool) (m : Nat) (e : Int) : ∃ (k : Int) (d : Nat),
    (finite negative m e).toFraction? = some (k, d) ∧ (d : ℚ) ≠ 0 ∧
      (finite negative m e).scalar? = some (.number (k / d)) := by
  obtain ⟨k, d, hf, hd, -⟩ := toFraction?_finite negative m e
  refine ⟨k, d, hf, by positivity, ?_⟩
  simp [scalar?, hf]

theorem scalar?_eq_some {a : Scalar} (h : x.scalar? = some a) :
    (∃ q, a = .number q) ∨ ∃ negative, a = .infinite negative := by
  cases x with
  | nan => contradiction
  | infinite negative => exact .inr ⟨negative, (Option.some.inj h).symm⟩
  | finite negative m e =>
    obtain ⟨k, d, -, -, hs⟩ := scalar?_finite negative m e
    exact .inl ⟨_, Option.some.inj (h.symm.trans hs)⟩

theorem scalar?_ne {a : Scalar} (hn : ∀ q, a ≠ .number q) (hi : ∀ b, a ≠ .infinite b)
    (x : Double) : some a ≠ x.scalar? := by
  intro h
  rcases scalar?_eq_some h.symm with ⟨q, rfl⟩ | ⟨b, rfl⟩
  · exact hn q rfl
  · exact hi b rfl

theorem isSome_scalar?_iff : x.scalar?.isSome ↔ x.isNan = false := by
  cases x with
  | nan => simp [scalar?, isNan]
  | infinite negative => simp [scalar?, isNan]
  | finite negative m e =>
    obtain ⟨_, _, _, _, hs⟩ := scalar?_finite negative m e
    simp [hs, isNan]

theorem sameInt_iff : x.sameInt n = true ↔ x.scalar? = some (.number n) := by
  rw [sameInt, beq_iff_eq]
  constructor
  · intro h
    obtain ⟨negative, m, e, d, rfl, hf, -, -⟩ := toInt?_eq_some h
    obtain ⟨k, c, hg, hc, hs⟩ := scalar?_finite negative m e
    obtain ⟨rfl, rfl⟩ := Prod.mk.inj (Option.some.inj (hf.symm.trans hg))
    rw [hs, Int.cast_mul, Int.cast_natCast, mul_div_cancel_right₀ _ hc]
  · intro h
    cases x with
    | nan => contradiction
    | infinite negative => cases h
    | finite negative m e =>
      obtain ⟨k, d, hf, hd, hs⟩ := scalar?_finite negative m e
      have hd0 : (d : Int) ≠ 0 := by exact_mod_cast hd
      have hq : (k : ℚ) / d = n := Scalar.number.inj (Option.some.inj (hs.symm.trans h))
      have hk : k = n * d := by exact_mod_cast (div_eq_iff hd).mp hq
      simp only [toInt?, hf]
      rw [hk, if_pos (Int.mul_emod_left n d), Int.mul_ediv_cancel n hd0]

/-- Doubles are compared by the numbers they are. -/
theorem same_iff (hx : x.isNan = false) : x.same y = true ↔ x.scalar? = y.scalar? := by
  cases x with
  | nan => contradiction
  | infinite negative =>
    cases y with
    | nan => simp [same, scalar?]
    | infinite other => simp [same, scalar?]
    | finite other l f =>
      obtain ⟨_, _, _, _, hs⟩ := scalar?_finite other l f
      rw [hs]
      simp [same, toFraction?, scalar?]
  | finite negative m e =>
    obtain ⟨k, d, hf, hd, hs⟩ := scalar?_finite negative m e
    rw [hs]
    cases y with
    | nan => simp [same, scalar?]
    | infinite other => simp [same, toFraction?, scalar?]
    | finite other l f =>
      obtain ⟨j, c, hg, hc, ht⟩ := scalar?_finite other l f
      rw [ht]
      simp only [same, hf, hg, beq_iff_eq, Option.some.injEq, Scalar.number.injEq,
        div_eq_div_iff hd hc]
      norm_cast

end Double

namespace Date

/-- A date is compared by its time when its distance from universal time is known. -/
def scalar (d : Date) : Scalar :=
  match d.instant? with
  | some t => .instant t
  | none => .date d

theorem scalar_cases (d : Date) : (∃ t, d.scalar = .instant t) ∨ d.scalar = .date d := by
  rw [scalar]
  split
  · exact .inl ⟨_, rfl⟩
  · exact .inr rfl

theorem scalar_ne {a : Scalar} (hi : ∀ t, a ≠ .instant t) (hd : ∀ e, a ≠ .date e)
    (d : Date) : a ≠ d.scalar := by
  rcases d.scalar_cases with ⟨t, h⟩ | h <;> rw [h]
  · exact hi t
  · exact hd d

theorem same_iff {d e : Date} : d.same e = true ↔ d.scalar = e.scalar := by
  unfold same scalar
  cases d.instant? <;> cases e.instant? <;> simp

end Date

/-- The integer a truth value is. -/
def Value.ofTruth (b : Bool) : Int := if b then 1 else 0

/-- What a value without parts is compared by, none for a nan and for values with parts. -/
def Value.scalar? : Value → Option Scalar
  | .null => some .null
  | .bool b => some (.number (ofTruth b))
  | .int n => some (.number n)
  | .float x => x.scalar?
  | .text s => some (.text s)
  | .bytes bs => some (.bytes bs)
  | .date d => some d.scalar
  | .again isMap => some (.again isMap)
  | .model m => some (.model m.name)
  | .otherClass name => some (.otherClass name)
  | .table t => some (.table t)
  | _ => none

namespace Value

variable {v w : Value}

theorem same_bool (b : Bool) (w : Value) : (bool b).same w = (int (ofTruth b)).same w := by
  cases w with
  | bool c => cases b <;> cases c <;> rfl
  | _ => rfl

theorem int_same_iff {n : Int} : (int n).same w = true ↔ some (.number n) = w.scalar? := by
  cases w with
  | bool b =>
    rw [scalar?, Option.some.injEq, Scalar.number.injEq, Int.cast_inj]
    exact beq_iff_eq
  | float x => exact Double.sameInt_iff.trans eq_comm
  | _ => simp [scalar?, Date.scalar_ne]

theorem float_same_iff {x : Double} (hx : x.isNan = false) :
    (float x).same w = true ↔ x.scalar? = w.scalar? := by
  cases w with
  | bool b => exact Double.sameInt_iff
  | int n => exact Double.sameInt_iff
  | float y =>
    simp only [same, hx, Bool.false_and, Bool.or_false, scalar?]
    exact Double.same_iff hx
  | _ =>
    obtain ⟨a, ha⟩ := Option.isSome_iff_exists.mp (Double.isSome_scalar?_iff.mpr hx)
    rcases Double.scalar?_eq_some ha with ⟨q, rfl⟩ | ⟨b, rfl⟩ <;>
      simp [scalar?, ha, Date.scalar_ne]

/-- Values without parts are compared by what they are. -/
theorem same_iff_scalar (h : v.scalar?.isSome) : v.same w = true ↔ v.scalar? = w.scalar? := by
  cases v with
  | bool b => rw [same_bool, int_same_iff, scalar?]
  | int n => exact int_same_iff
  | float x => exact float_same_iff (Double.isSome_scalar?_iff.mp h)
  | date d =>
    cases w with
    | date e =>
      rw [scalar?, scalar?, Option.some.injEq]
      exact Date.same_iff
    | _ =>
      rcases d.scalar_cases with ⟨t, hd⟩ | hd <;> simp [scalar?, hd, Double.scalar?_ne]
  | list _ | tuple _ | map _ | set _ | condition _ => contradiction
  | null | text _ | bytes _ | again _ | model _ | otherClass _ | table _ =>
    cases w <;> simp [scalar?, Double.scalar?_ne, Date.scalar_ne]

end Value

/-! ### Values with parts -/

/-- Two values are equal. -/
abbrev Value.Equals (v w : Value) : Prop := v.same w = true

/-- Two conditions are equal. -/
abbrev Condition.Equals (c d : Condition) : Prop := c.same d = true

/-- Two entries of mappings have equal keys and equal values. -/
abbrev Value.EntryEquals (e f : Value × Value) : Prop := e.1.Equals f.1 ∧ e.2.Equals f.2

/-- Two children of groups are joined in the same way and are equal. -/
abbrev Condition.ChildEquals (c d : Combinator × Condition) : Prop :=
  c.1 = d.1 ∧ Condition.Equals c.2 d.2

namespace Value

theorem sameItems_iff (xs ys : List Value) :
    sameItems xs ys = true ↔ List.Forall₂ Equals xs ys := by
  induction xs generalizing ys with
  | nil => cases ys <;> simp [sameItems]
  | cons x xs ih => cases ys <;> simp [sameItems, ih]

theorem heldBy_iff (es fs : List (Value × Value)) :
    heldBy es fs = true ↔ ∀ e ∈ es, ∃ f ∈ fs, EntryEquals e f := by
  induction es with
  | nil => simp [heldBy]
  | cons e es ih =>
    rw [heldBy, Bool.and_eq_true, ih, List.forall_mem_cons, List.any_eq_true]
    simp only [Bool.and_eq_true]

theorem amongMembers_iff (xs ys : List Value) :
    amongMembers xs ys = true ↔ ∀ x ∈ xs, ∃ y ∈ ys, Equals x y := by
  induction xs with
  | nil => simp [amongMembers]
  | cons x xs ih =>
    rw [amongMembers, Bool.and_eq_true, ih, List.forall_mem_cons, List.any_eq_true]

theorem list_equals_iff (xs : List Value) (w : Value) :
    (list xs).Equals w ↔ ∃ ys, w = list ys ∧ List.Forall₂ Equals xs ys := by
  cases w <;> simp [Equals, sameItems_iff]

theorem tuple_equals_iff (xs : List Value) (w : Value) :
    (tuple xs).Equals w ↔ ∃ ys, w = tuple ys ∧ List.Forall₂ Equals xs ys := by
  cases w <;> simp [Equals, sameItems_iff]

theorem map_equals_iff (es : List (Value × Value)) (w : Value) :
    (map es).Equals w ↔ ∃ fs, w = map fs ∧ EquatesAt.Among EntryEquals es fs := by
  cases w <;> simp [Equals, heldBy_iff, EquatesAt.Among]

theorem set_equals_iff (xs : List Value) (w : Value) :
    (set xs).Equals w ↔ ∃ ys, w = set ys ∧ EquatesAt.Among Equals xs ys := by
  cases w <;> simp [Equals, amongMembers_iff, EquatesAt.Among]

theorem condition_equals_iff (c : Condition) (w : Value) :
    (condition c).Equals w ↔ ∃ d, w = condition d ∧ c.Equals d := by
  cases w <;> simp [Equals]

end Value

namespace Condition

theorem sameChildren_iff (cs ds : List (Combinator × Condition)) :
    sameChildren cs ds = true ↔ List.Forall₂ ChildEquals cs ds := by
  induction cs generalizing ds with
  | nil => cases ds <;> simp [sameChildren]
  | cons c cs ih => cases ds <;> simp [sameChildren, ih, ChildEquals]

theorem leaf_equals_iff (p : String × List Value) (d : Condition) :
    (leaf p.1 p.2).Equals d ↔
      ∃ q : String × List Value, d = leaf q.1 q.2 ∧ p.1 = q.1 ∧
        List.Forall₂ Value.Equals p.2 q.2 := by
  cases d <;> simp [Equals, Value.sameItems_iff]

theorem group_equals_iff (cs : List (Combinator × Condition)) (d : Condition) :
    (group cs).Equals d ↔ ∃ ds, d = group ds ∧ List.Forall₂ ChildEquals cs ds := by
  cases d <;> simp [Equals, sameChildren_iff]

theorem stray_equals_iff (v : Value) (d : Condition) :
    (stray v).Equals d ↔ ∃ w, d = stray w ∧ v.Equals w := by
  cases d <;> simp [Equals]

end Condition

mutual

/-- No nan occurs in a value, and mappings and sets hold nothing twice. -/
def Value.isOrdinary : Value → Bool
  | .float x => !x.isNan
  | .list xs => Value.allOrdinary xs
  | .tuple xs => Value.allOrdinary xs
  | .map es => Value.allEntriesOrdinary es && decide (es.Pairwise fun e f => ¬ e.1.Equals f.1)
  | .set xs => Value.allOrdinary xs && decide (xs.Pairwise fun x y => ¬ x.Equals y)
  | .condition c => c.isOrdinary
  | _ => true
termination_by structural v => v

def Value.allOrdinary : List Value → Bool
  | [] => true
  | x :: xs => x.isOrdinary && Value.allOrdinary xs
termination_by structural xs => xs

def Value.allEntriesOrdinary : List (Value × Value) → Bool
  | [] => true
  | (k, v) :: es => k.isOrdinary && v.isOrdinary && Value.allEntriesOrdinary es
termination_by structural es => es

def Condition.isOrdinary : Condition → Bool
  | .leaf _ xs => Value.allOrdinary xs
  | .group cs => Condition.allChildrenOrdinary cs
  | .stray v => v.isOrdinary
termination_by structural c => c

def Condition.allChildrenOrdinary : List (Combinator × Condition) → Bool
  | [] => true
  | (_, c) :: cs => c.isOrdinary && Condition.allChildrenOrdinary cs
termination_by structural cs => cs

end

namespace Value

theorem allEntriesOrdinary_iff (es : List (Value × Value)) : allEntriesOrdinary es = true ↔
    ∀ e ∈ es, e.1.isOrdinary = true ∧ e.2.isOrdinary = true := by
  induction es with
  | nil => simp [allEntriesOrdinary]
  | cons e es ih =>
    rw [allEntriesOrdinary, Bool.and_eq_true, Bool.and_eq_true, ih, List.forall_mem_cons]

/-- A mapping of ordinary keys and values is ordinary, since it keeps one entry per key. -/
theorem isOrdinary_ofEntries {es : List (Value × Value)} (h : allEntriesOrdinary es = true) :
    (ofEntries es).isOrdinary = true := by
  rw [ofEntries, isOrdinary, Bool.and_eq_true, decide_eq_true_eq, allEntriesOrdinary_iff]
  refine ⟨?_, ?_⟩
  · exact Keyed.forall_ofList (P := fun k : Value => k.isOrdinary = true)
      (Q := fun v : Value => v.isOrdinary = true) ((allEntriesOrdinary_iff es).mp h)
  · exact Keyed.apart_ofList.imp fun hk he => Bool.noConfusion (hk.symm.trans he)

end Value

theorem Value.equatesAt_scalar {v : Value} (h : v.scalar?.isSome) : EquatesAt Equals v where
  refl := (same_iff_scalar h).mpr rfl
  symm w hw := by
    have hv := (same_iff_scalar h).mp hw
    exact (same_iff_scalar (hv ▸ h)).mpr hv.symm
  trans w u hw hu := by
    have hv := (same_iff_scalar h).mp hw
    exact (same_iff_scalar h).mpr (hv.trans ((same_iff_scalar (hv ▸ h)).mp hu))

mutual

/-- At ordinary values equality is reflexive, symmetric and transitive. -/
theorem Value.equatesAt : ∀ v : Value, v.isOrdinary = true → EquatesAt Value.Equals v
  | .float _, h => by
    rw [Value.isOrdinary, Bool.not_eq_true'] at h
    exact Value.equatesAt_scalar (Double.isSome_scalar?_iff.mpr h)
  | .list xs, h => .of_iff Value.list_equals_iff (.forall₂ (Value.allEquateAt xs h))
  | .tuple xs, h => .of_iff Value.tuple_equals_iff (.forall₂ (Value.allEquateAt xs h))
  | .map es, h => by
    rw [Value.isOrdinary, Bool.and_eq_true, decide_eq_true_eq] at h
    refine .of_iff Value.map_equals_iff (.among (h.2.imp fun hk he => hk he.1) ?_)
    exact Value.allEntriesEquateAt es h.1
  | .set xs, h => by
    rw [Value.isOrdinary, Bool.and_eq_true, decide_eq_true_eq] at h
    exact .of_iff Value.set_equals_iff (.among h.2 (Value.allEquateAt xs h.1))
  | .condition c, h => .of_iff Value.condition_equals_iff (c.equatesAt h)
  | .null, _ => Value.equatesAt_scalar rfl
  | .bool _, _ => Value.equatesAt_scalar rfl
  | .int _, _ => Value.equatesAt_scalar rfl
  | .text _, _ => Value.equatesAt_scalar rfl
  | .bytes _, _ => Value.equatesAt_scalar rfl
  | .date _, _ => Value.equatesAt_scalar rfl
  | .again _, _ => Value.equatesAt_scalar rfl
  | .model _, _ => Value.equatesAt_scalar rfl
  | .otherClass _, _ => Value.equatesAt_scalar rfl
  | .table _, _ => Value.equatesAt_scalar rfl
termination_by structural v => v

theorem Value.allEquateAt : ∀ xs : List Value, Value.allOrdinary xs = true →
    ∀ x ∈ xs, EquatesAt Value.Equals x
  | [], _ => fun _ hx => nomatch hx
  | x :: xs, h => by
    rw [Value.allOrdinary, Bool.and_eq_true] at h
    exact List.forall_mem_cons.mpr ⟨x.equatesAt h.1, Value.allEquateAt xs h.2⟩
termination_by structural xs => xs

theorem Value.allEntriesEquateAt : ∀ es : List (Value × Value),
    Value.allEntriesOrdinary es = true → ∀ e ∈ es, EquatesAt Value.EntryEquals e
  | [], _ => fun _ he => nomatch he
  | (k, v) :: es, h => by
    rw [Value.allEntriesOrdinary, Bool.and_eq_true, Bool.and_eq_true] at h
    refine List.forall_mem_cons.mpr ⟨?_, Value.allEntriesEquateAt es h.2⟩
    exact .prod (k.equatesAt h.1.1) (v.equatesAt h.1.2)
termination_by structural es => es

theorem Condition.equatesAt : ∀ c : Condition, c.isOrdinary = true →
    EquatesAt Condition.Equals c
  | .leaf s xs, h => by
    have hp := (EquatesAt.eq s).prod (.forall₂ (Value.allEquateAt xs h))
    exact .of_iff (f := fun p => Condition.leaf p.1 p.2) Condition.leaf_equals_iff hp
  | .group cs, h =>
    .of_iff Condition.group_equals_iff (.forall₂ (Condition.allChildrenEquateAt cs h))
  | .stray v, h => .of_iff Condition.stray_equals_iff (v.equatesAt h)
termination_by structural c => c

theorem Condition.allChildrenEquateAt : ∀ cs : List (Combinator × Condition),
    Condition.allChildrenOrdinary cs = true → ∀ c ∈ cs, EquatesAt Condition.ChildEquals c
  | [], _ => fun _ hc => nomatch hc
  | (k, c) :: cs, h => by
    rw [Condition.allChildrenOrdinary, Bool.and_eq_true] at h
    refine List.forall_mem_cons.mpr ⟨?_, Condition.allChildrenEquateAt cs h.2⟩
    exact .prod (.eq k) (c.equatesAt h.1)
termination_by structural cs => cs

end

end RowQuery
