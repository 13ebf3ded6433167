import RowQuery.Value.Equality

/-!
The order of values. Numbers and booleans are ordered among themselves, texts and bytes by their
characters, and sequences of one type by their first items that differ. All other pairs have no
order.
-/

namespace RowQuery

namespace Value

/-- Booleans are the integers zero and one. -/
def toWhole? : Value → Option Int
  | .bool b => some (if b then 1 else 0)
  | .int n => some n
  | _ => none

/-- Whether a number comes before another, none for values that are no numbers. -/
def numberLess? : Value → Value → Option Bool
  | .float x, .float y => some (x.less y)
  | .float x, w => w.toWhole?.map fun n => x.lessInt n
  | v, .float y => v.toWhole?.map fun n => Double.intLess n y
  | v, w => match v.toWhole?, w.toWhole? with
    | some n, some m => some (decide (n < m))
    | _, _ => none

end Value

mutual

/-- Whether a value comes before another, none when they have no order. -/
def Value.less? : Value → Value → Option Bool
  | .text s, .text t => some (decide (s < t))
  | .bytes s, .bytes t => some (decide (s < t))
  | .list xs, .list ys => Value.lessItems? xs ys
  | .tuple xs, .tuple ys => Value.lessItems? xs ys
  | v, w => v.numberLess? w
termination_by structural v => v

/-- The order of the first items that differ; of two sequences where one starts the other the
shorter comes first. -/
def Value.lessItems? : List Value → List Value → Option Bool
  | [], ys => some !ys.isEmpty
  | _ :: _, [] => some false
  | x :: xs, y :: ys => if x.same y then Value.lessItems? xs ys else x.less? y
termination_by structural xs => xs

end

end RowQuery
