import RowQuery.Value.Basic
import RowQuery.Keyed

/-!
Equality of values. Booleans are the integers zero and one, integers and doubles are compared
exactly, a nan is the same as any other, dates are equal when they name the same time, a list
differs from a tuple, and mappings and sets are equal when they hold equal entries in any order.
Mappings keep one entry per key under this equality.
-/

namespace RowQuery

mutual

/-- Equality of values. -/
def Value.same : Value → Value → Bool
  | .null, .null => true
  | .bool a, .bool b => a == b
  | .bool a, .int n => (if a then 1 else 0) == n
  | .bool a, .float x => x.sameInt (if a then 1 else 0)
  | .int n, .bool b => n == (if b then 1 else 0)
  | .int n, .int m => n == m
  | .int n, .float x => x.sameInt n
  | .float x, .bool b => x.sameInt (if b then 1 else 0)
  | .float x, .int n => x.sameInt n
  | .float x, .float y => x.same y || (x.isNan && y.isNan)
  | .text s, .text t => s == t
  | .bytes s, .bytes t => s == t
  | .date a, .date b => a.same b
  | .list xs, .list ys => Value.sameItems xs ys
  | .tuple xs, .tuple ys => Value.sameItems xs ys
  | .map es, .map fs => es.length == fs.length && Value.heldBy es fs
  | .set xs, .set ys => xs.length == ys.length && Value.amongMembers xs ys
  | .again a, .again b => a == b
  | .condition c, .condition d => Condition.same c d
  | .model m, .model n => m.name == n.name
  | .otherClass a, .otherClass b => a == b
  | .table s, .table t => s == t
  | _, _ => false
termination_by structural v => v

/-- Lists of the same length with equal items. -/
def Value.sameItems : List Value → List Value → Bool
  | [], [] => true
  | x :: xs, y :: ys => x.same y && Value.sameItems xs ys
  | _, _ => false
termination_by structural xs => xs

/-- Every entry of the first mapping has an equal one in the second. -/
def Value.heldBy : List (Value × Value) → List (Value × Value) → Bool
  | [], _ => true
  | (k, v) :: es, fs => fs.any (fun f => k.same f.1 && v.same f.2) && Value.heldBy es fs
termination_by structural es => es

/-- Every member of the first set has an equal one in the second. -/
def Value.amongMembers : List Value → List Value → Bool
  | [], _ => true
  | x :: xs, ys => ys.any (fun y => x.same y) && Value.amongMembers xs ys
termination_by structural xs => xs

/-- Equality of conditions. -/
def Condition.same : Condition → Condition → Bool
  | .leaf s xs, .leaf t ys => s == t && Value.sameItems xs ys
  | .group cs, .group ds => Condition.sameChildren cs ds
  | .stray v, .stray w => v.same w
  | _, _ => false
termination_by structural c => c

/-- The same combinators over equal conditions. -/
def Condition.sameChildren :
    List (Combinator × Condition) → List (Combinator × Condition) → Bool
  | [], [] => true
  | (a, c) :: cs, (b, d) :: ds => a == b && c.same d && Condition.sameChildren cs ds
  | _, _ => false
termination_by structural cs => cs

end

instance : BEq Value := ⟨Value.same⟩

mutual

/-- Values that can be keys of a mapping: no list and no mapping occurs in them. -/
def Value.isKey : Value → Bool
  | .list _ => false
  | .map _ => false
  | .set _ => false
  | .again _ => false
  | .tuple xs => Value.allKeys xs
  | .condition c => c.isKey
  | _ => true
termination_by structural v => v

/-- All values of a list can be keys. -/
def Value.allKeys : List Value → Bool
  | [] => true
  | x :: xs => x.isKey && Value.allKeys xs
termination_by structural xs => xs

/-- Conditions that can be keys. -/
def Condition.isKey : Condition → Bool
  | .leaf _ xs => Value.allKeys xs
  | .group cs => Condition.allChildKeys cs
  | .stray v => v.isKey
termination_by structural c => c

/-- All children can be keys. -/
def Condition.allChildKeys : List (Combinator × Condition) → Bool
  | [] => true
  | (_, c) :: cs => c.isKey && Condition.allChildKeys cs
termination_by structural cs => cs

end

namespace Value

/-- The mapping of some pairs; a repeated key keeps its first place and takes the last value. -/
def ofEntries (entries : List (Value × Value)) : Value := .map (Keyed.ofList entries)

/-- The value a mapping holds for a text key. -/
def field? (entries : List (Value × Value)) (key : String) : Option Value :=
  Keyed.find? entries (.text key)

end Value

end RowQuery
