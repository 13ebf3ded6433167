import RowQuery.Value.Equality

/-!
The members of a set in the order they are shown. Numbers are placed in a table of slots by their
residue, and shown by slot; a set with other members shows them in the order they were given.
-/

namespace RowQuery.Members

/-- The modulus of residues, a Mersenne prime: two to the 61st leaves the residue one. -/
def modulus : Nat := Nat.pow 2 61 - 1

/-- The residue of `n / 2 ^ k`, with the sign of `n`. The residue -1 is not used. -/
def residue (n : Int) (k : Nat) : Int :=
  let r : Nat := n.natAbs * Nat.pow 2 (61 - k % 61) % modulus
  if n < 0 then (if r = 1 then -2 else -(r : Int)) else r

/-- The residue of a value, none for values that are no numbers. -/
def residue? : Value → Option Int
  | .bool b => some (if b then 1 else 0)
  | .int n => some (residue n 0)
  | .float (.infinite negative) => some (if negative then -314159 else 314159)
  | .float x => x.toFraction?.map fun (n, d) => residue n d.log2
  | _ => none

/-- The number of slots for `n` members: more than twice as many, a power of two. -/
def slotCount (n : Nat) : Nat := if n ≤ 4 then 8 else Nat.pow 2 ((2 * n).log2 + 1)

/-- The slots tried together from one on: ten, or only the first when the table ends before. -/
def run (count i : Nat) : List Nat :=
  if i + 9 < count then (List.range 10).map (i + ·) else [i]

/-- The first free slot on the way of a residue through the table. -/
def freeSlot (taken : List Nat) (count : Nat) : (fuel i shift : Nat) → Nat
  | 0, i, _ => i
  | fuel + 1, i, shift =>
    match (run count i).find? fun j => !taken.contains j with
    | some j => j
    | none => freeSlot taken count fuel ((5 * i + 1 + shift / 32) % count) (shift / 32)

/-- The slots of members placed one after another. -/
def slots (count : Nat) (residues : List Int) : List Nat :=
  residues.foldl (fun taken r =>
    let bits := (r % (Nat.pow 2 64 : Int)).toNat
    taken ++ [freeSlot taken count (count + 16) (bits % count) bits]) []

/-- The members in the order they are shown. -/
def shown (members : List Value) : List Value :=
  match members.mapM residue? with
  | none => members
  | some residues =>
    let count := slotCount members.length
    let placed := (slots count residues).zip members
    (List.range count).filterMap fun i => (placed.find? fun p => p.1 == i).map (·.2)

end RowQuery.Members
