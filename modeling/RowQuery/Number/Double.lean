/-!
Double precision numbers as exact dyadic fractions. A finite number is a sign, a mantissa and an
exponent of two in normal form: the mantissa has 53 bits unless the exponent is the least one. A
ratio is rounded to the nearest such number, a tie to the even mantissa.
-/

namespace RowQuery

inductive Double
  | nan
  | infinite (negative : Bool)
  | finite (negative : Bool) (mantissa : Nat) (exponent : Int)
  deriving DecidableEq, Repr

namespace Double

def leastExponent : Int := -1074

def greatestExponent : Int := 971

def zero (negative : Bool) : Double := .finite negative 0 leastExponent

/-- The integer nearest to `n / d`; of two nearest ones the even one. -/
def roundDiv (n d : Nat) : Nat :=
  let q := n / d
  let r := n % d
  if d < 2 * r ∨ (d = 2 * r ∧ q % 2 = 1) then q + 1 else q

/-- `n / d` counted in units of `2 ^ e`, as a fraction. -/
def scaled (n d : Nat) (e : Int) : Nat × Nat :=
  if e < 0 then (n * Nat.pow 2 (-e).toNat, d) else (n, d * Nat.pow 2 e.toNat)

/-- The number nearest to `n / d`, for a positive `d`. -/
def ofRatio (negative : Bool) (n d : Nat) : Double :=
  if n = 0 then zero negative
  else
    let e₀ : Int := (n.log2 : Int) - (d.log2 : Int) - 53
    let q₀ := (scaled n d e₀).1 / (scaled n d e₀).2
    let e := max leastExponent (if q₀ < Nat.pow 2 53 then e₀ else e₀ + 1)
    let m := roundDiv (scaled n d e).1 (scaled n d e).2
    let (m, e) := if m = Nat.pow 2 53 then (Nat.pow 2 52, e + 1) else (m, e)
    if greatestExponent < e then .infinite negative else .finite negative m e

/-- The number nearest to `n · 10 ^ k`. Magnitudes beyond the range are settled by the count of
digits, so no power is larger than the number needs. -/
def ofDecimal (negative : Bool) (n : Nat) (k : Int) : Double :=
  let digits : Int := (Nat.toDigits 10 n).length
  if n = 0 ∨ digits + k < -330 then zero negative
  else if 310 < digits + k then .infinite negative
  else if k < 0 then ofRatio negative n (Nat.pow 10 (-k).toNat)
  else ofRatio negative (n * Nat.pow 10 k.toNat) 1

def isNan : Double → Bool
  | .nan => true
  | _ => false

/-- A finite number as a fraction with a positive denominator. -/
def toFraction? : Double → Option (Int × Nat)
  | .finite negative m e =>
    let (n, d) := if e < 0 then (m, Nat.pow 2 (-e).toNat) else (m * Nat.pow 2 e.toNat, 1)
    some (if negative then -(n : Int) else n, d)
  | _ => none

/-- The integer part of a finite number, toward zero. -/
def truncate? (x : Double) : Option Int :=
  x.toFraction?.map fun (n, d) => n.tdiv d

/-- The integer a number is equal to. -/
def toInt? (x : Double) : Option Int :=
  match x.toFraction? with
  | some (n, d) => if n % d = 0 then some (n / d) else none
  | none => none

def ofInt (n : Int) : Double := ofRatio (n < 0) n.natAbs 1

/-- Numbers as the comparisons see them: the two zeros are one, and nan is equal to nothing. -/
def same (x y : Double) : Bool :=
  match x, y with
  | .nan, _ => false
  | _, .nan => false
  | .infinite a, .infinite b => a == b
  | _, _ => match x.toFraction?, y.toFraction? with
    | some (n, d), some (m, e) => n * e == m * d
    | _, _ => false

/-- `x < y`, false when either is nan. -/
def less (x y : Double) : Bool :=
  match x, y with
  | .nan, _ => false
  | _, .nan => false
  | .infinite a, .infinite b => a && !b
  | .infinite a, _ => a
  | _, .infinite b => !b
  | _, _ => match x.toFraction?, y.toFraction? with
    | some (n, d), some (m, e) => n * e < m * d
    | _, _ => false

/-- `x = n` for an integer `n`, without rounding `n`. -/
def sameInt (x : Double) (n : Int) : Bool := x.toInt? == some n

/-- `x < n` for an integer `n`, without rounding `n`. -/
def lessInt (x : Double) (n : Int) : Bool :=
  match x with
  | .nan => false
  | .infinite a => a
  | _ => match x.toFraction? with
    | some (m, d) => m < n * d
    | none => false

/-- `n < x` for an integer `n`, without rounding `n`. -/
def intLess (n : Int) (x : Double) : Bool :=
  match x with
  | .nan => false
  | .infinite a => !a
  | _ => match x.toFraction? with
    | some (m, d) => n * d < m
    | none => false

/-- The number with the other sign. -/
def neg : Double → Double
  | .nan => .nan
  | .infinite negative => .infinite !negative
  | .finite negative m e => .finite (!negative) m e

def isNegative : Double → Bool
  | .nan => false
  | .infinite negative => negative
  | .finite negative _ _ => negative

/-- The number nearest to the sum; zero is negative only as the sum of two negative zeros. -/
def add (x y : Double) : Double :=
  match x, y with
  | .nan, _ => .nan
  | _, .nan => .nan
  | .infinite a, .infinite b => if a = b then .infinite a else .nan
  | .infinite a, _ => .infinite a
  | _, .infinite b => .infinite b
  | _, _ => match x.toFraction?, y.toFraction? with
    | some (n, d), some (m, e) =>
      let total := n * e + m * d
      if total = 0 then zero (x.isNegative && y.isNegative)
      else ofRatio (total < 0) total.natAbs (d * e)
    | _, _ => .nan

/-- The number nearest to the product. -/
def mul (x y : Double) : Double :=
  let negative := x.isNegative != y.isNegative
  match x.toFraction?, y.toFraction? with
  | some (n, d), some (m, e) => ofRatio negative (n.natAbs * m.natAbs) (d * e)
  | some (n, _), none => if n = 0 || y.isNan then .nan else .infinite negative
  | none, some (m, _) => if m = 0 || x.isNan then .nan else .infinite negative
  | none, none => if x.isNan || y.isNan then .nan else .infinite negative

def isInfinite : Double → Bool
  | .infinite _ => true
  | _ => false

def isZero : Double → Bool
  | .finite _ m _ => m == 0
  | _ => false

example : ofDecimal false 5 (-1) = .finite false (Nat.pow 2 52) (-53) := by decide +kernel
example : ofDecimal false 1 400 = .infinite false := by decide +kernel
example : ofDecimal false 5 (-324) = .finite false 1 (-1074) := by decide +kernel
example : add (ofDecimal false 1 (-1)) (ofDecimal false 2 (-1)) =
    ofDecimal false 30000000000000004 (-17) := by decide +kernel
example : mul (ofDecimal false 3 0) (ofDecimal true 5 (-1)) = ofDecimal true 15 (-1) := by
  decide +kernel
example : ofDecimal false 9007199254740993 0 = ofInt 9007199254740992 := by decide +kernel

end Double

end RowQuery
