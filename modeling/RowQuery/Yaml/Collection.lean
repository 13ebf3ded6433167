import RowQuery.Value.Equality

/-!
Collections that may hold each other. A collection is known by its number, so that two may share a
third and one may lie inside itself; as a value it is unfolded, down to the places where a
collection lies inside itself again.
-/

namespace RowQuery.Yaml

/-- A place in a collection: a value, or a collection by its number. -/
inductive Slot
  | value (v : Value)
  | collection (number : Nat)

inductive Collection
  | list (items : List Slot)
  /-- A list of pairs, which may repeat keys. -/
  | pairs (items : List (Slot × Slot))
  | map (entries : List (Value × Slot))
  /-- The members in the order they are shown. -/
  | set (members : List Value)

namespace Collection

def isMap : Collection → Bool
  | .map _ => true
  | _ => false

/-- Collections that were unfolded and do not lie inside themselves, by number. -/
abbrev Unfolded := Array (Option Value)

/-- The value of a slot that lies in the collections `above`, and whether nothing in it is cut
off. -/
def unfold (collections : Array Collection) :
    (fuel : Nat) → (above : List Nat) → Slot → StateM Unfolded (Value × Bool)
  | _, _, .value v => return (v, true)
  | 0, _, .collection _ => return (.null, false)
  | fuel + 1, above, .collection number => do
    match (← get)[number]?, collections[number]? with
    | some (some v), _ => return (v, true)
    | _, none => return (.null, false)
    | _, some c =>
      if above.contains number then return (.again c.isMap, false)
      let inner := unfold collections fuel (number :: above)
      let (v, whole) ← match c with
        | .list items => do
          let parts ← items.mapM inner
          pure (Value.list (parts.map (·.1)), parts.all (·.2))
        | .pairs items => do
          let parts ← items.mapM fun (k, v) => do return (← inner k, ← inner v)
          pure (.list (parts.map fun p => .tuple [p.1.1, p.2.1]), parts.all fun p => p.1.2 && p.2.2)
        | .map entries => do
          let parts ← entries.mapM fun (k, v) => do return (k, ← inner v)
          pure (.map (parts.map fun p => (p.1, p.2.1)), parts.all (·.2.2))
        | .set members => pure (.set members, true)
      if whole then modify fun u => u.setIfInBounds number (some v)
      return (v, whole)

/-- The value of a slot on its own. A chain of collections inside each other is cut off where one
comes again, so it is no longer than there are collections. -/
def toValue (collections : Array Collection) (s : Slot) : StateM Unfolded Value := do
  return (← unfold collections (collections.size + 1) [] s).1

/-- The value of a slot whose mappings down to some depth are unfolded each on its own, so that what
they hold is cut off only inside itself. -/
def outline (collections : Array Collection) : (depth : Nat) → Slot → StateM Unfolded Value
  | 0, s => toValue collections s
  | _, .value v => return v
  | depth + 1, .collection number => do
    match collections[number]? with
    | some (.map entries) =>
      return .map (← entries.mapM fun (k, v) => do return (k, ← outline collections depth v))
    | _ => toValue collections (.collection number)

end Collection

end RowQuery.Yaml
