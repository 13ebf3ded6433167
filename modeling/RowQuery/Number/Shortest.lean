import RowQuery.Number.Double

/-!
Shortest decimal texts of doubles: the fewest digits that read back as the same number, and of
those the nearest to it. Positional notation is used for magnitudes from 0.0001 up to below 10^16
and always shows a fraction; beyond it the text has an exponent of at least two digits.
-/

namespace RowQuery.Double

/-- The reals that round to a positive finite number, in quarters of its last place: the number
itself, the lower and the upper end, and whether the ends belong. -/
structure Rounding where
  value : Nat
  low : Nat
  high : Nat
  closed : Bool

def Rounding.of (m : Nat) (e : Int) : Rounding :=
  { value := 4 * m
    low := if m = Nat.pow 2 52 ∧ leastExponent < e then 4 * m - 1 else 4 * m - 2
    high := 4 * m + 2
    closed := m % 2 == 0 }

/-- The interval holds `t / u`, for a positive `u`. -/
def Rounding.holds (r : Rounding) (t u : Nat) : Bool :=
  if r.closed then r.low * u ≤ t && t ≤ r.high * u else r.low * u < t && t < r.high * u

/-- The least `k` in a range of candidates with `n < d · 10 ^ k`. -/
def magnitudeFrom (n d : Nat) (k : Int) : Nat → Int
  | 0 => k
  | fuel + 1 =>
    let below := if k < 0 then n * Nat.pow 10 (-k).toNat < d else n < d * Nat.pow 10 k.toNat
    if below then k else magnitudeFrom n d (k + 1) fuel

/-- The place of the decimal point of `n / d`: the number is less than `10 ^ k` and not less than
`10 ^ (k - 1)`. -/
def magnitude (n d : Nat) : Int :=
  let guess := ((n.log2 : Int) - (d.log2 : Int) - 1) * 30103 / 100000 - 1
  magnitudeFrom n d guess 8

/-- Searches the grids of `count`, `count + 1`, … digits for a point that reads back, where `n / d`
is the number in quarters of its last place; gives the point and its grid. -/
def shortestFrom (r : Rounding) (n d : Nat) (k : Int) (count : Nat) : Nat → Nat × Int
  | 0 => (n, 0)
  | fuel + 1 =>
    let p := k - count
    let up := if p < 0 then Nat.pow 10 (-p).toNat else 1
    let down := if p < 0 then 1 else Nat.pow 10 p.toNat
    let t := n * up / (d * down)
    -- a grid point `t` is `t · down / up`, or `4 · t · down · d / (up · n)` times the value
    let inside := fun t => r.holds (t * down * d * r.value) (up * n)
    match inside t, inside (t + 1) with
    | true, true =>
      let above := 2 * (n * up - t * (d * down))
      let unit := d * down
      if above < unit ∨ (above = unit ∧ t % 2 = 0) then (t, p) else (t + 1, p)
    | true, false => (t, p)
    | false, true => (t + 1, p)
    | false, false => shortestFrom r n d k (count + 1) fuel

/-- The digits of the shortest text and the place of the decimal point before the first digit. -/
def shortest (m : Nat) (e : Int) : List Char × Int :=
  let (n, d) := if e < 0 then (m, Nat.pow 2 (-e).toNat) else (m * Nat.pow 2 e.toNat, 1)
  let (t, p) := shortestFrom (Rounding.of m e) n d (magnitude n d) 1 17
  let digits := Nat.toDigits 10 t
  let significant := (digits.reverse.dropWhile (· == '0')).reverse
  (significant, p + digits.length)

/-- The digits with the decimal point `point` places after the start of the first one. -/
def positional (digits : List Char) (point : Int) : List Char :=
  if point ≤ 0 then '0' :: '.' :: (List.replicate (-point).toNat '0' ++ digits)
  else if digits.length ≤ point.toNat then
    digits ++ List.replicate (point.toNat - digits.length) '0' ++ ['.', '0']
  else digits.take point.toNat ++ '.' :: digits.drop point.toNat

/-- The digits with the decimal point after the first one, and an exponent. -/
def scientific (digits : List Char) (point : Int) : List Char :=
  let exponent := point - 1
  let power := Nat.toDigits 10 exponent.natAbs
  let fraction := if digits.length ≤ 1 then [] else '.' :: digits.drop 1
  digits.take 1 ++ fraction ++ 'e' :: (if exponent < 0 then '-' else '+') ::
    (if power.length < 2 then '0' :: power else power)

def text : Double → String
  | .nan => "nan"
  | .infinite negative => if negative then "-inf" else "inf"
  | .finite negative m e =>
    let unsigned :=
      if m = 0 then ['0', '.', '0']
      else
        let (digits, point) := shortest m e
        if -4 < point ∧ point ≤ 16 then positional digits point else scientific digits point
    String.ofList (if negative then '-' :: unsigned else unsigned)

end RowQuery.Double
