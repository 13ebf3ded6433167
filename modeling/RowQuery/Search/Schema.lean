import RowQuery.Error
import RowQuery.Value.Order

/-!
The schema of search requests. A schema is a predicate on values, built from the types of JSON:
lists are arrays and mappings are objects, a tuple is neither, a boolean is no number, and a double
without a fraction is an integer. A request that is refused for entries of a mapping names the entry
with the least key, so it fails otherwise when their keys have no order.
-/

namespace RowQuery.Search

namespace Schema

def isText : Value → Bool
  | .text _ => true
  | _ => false

/-- A text of at least one character. -/
def isName : Value → Bool
  | .text s => !s.isEmpty
  | _ => false

def isNull : Value → Bool
  | .null => true
  | _ => false

/-- An array whose items all satisfy a schema. -/
def isListOf (item : Value → Bool) : Value → Bool
  | .list xs => xs.all item
  | _ => false

/-- An object whose fields all satisfy a schema, whatever their keys. -/
def isMapOf (field : Value → Bool) : Value → Bool
  | .map es => es.all fun e => field e.2
  | _ => false

/-- Exactly one of some schemas is satisfied. -/
def oneOf (schemas : List (Value → Bool)) (v : Value) : Bool :=
  (schemas.filter fun p => p v).length == 1

/-- No integer, or one that is not negative. -/
def isCount : Value → Bool
  | .null => true
  | .int n => 0 ≤ n
  | .float x => match x.toInt? with
    | some n => 0 ≤ n
    | none => false
  | _ => false

/-- Conditions are a text, an array or nothing; their nesting is left to their reader. -/
def isConditions : Value → Bool
  | .null => true
  | .text _ => true
  | .list _ => true
  | _ => false

def isColumns : Value → Bool := oneOf [isName, isListOf isName, isMapOf isName, isNull]

def isGrouping : Value → Bool := oneOf [isName, isListOf isName, isNull]

/-- An array of two texts. -/
def isPair : Value → Bool
  | .list [a, b] => isText a && isText b
  | _ => false

def isOrdering : Value → Bool :=
  oneOf [isName, isMapOf isText, isListOf (oneOf [isName, isPair]), isNull]

/-- The fields of a request, each with its schema. -/
def fields : List (String × (Value → Bool)) :=
  [("table", isName), ("columns", isColumns), ("conditions", isConditions),
    ("having", isConditions), ("group", isGrouping), ("sort", isOrdering), ("limit", isCount),
    ("offset", isCount)]

/-- A field of a request has a known key and a value its schema allows. -/
def isField (entry : Value × Value) : Bool :=
  match entry.1 with
  | .text key => match fields.find? fun f => f.1 == key with
    | some f => f.2 entry.2
    | none => false
  | _ => false

/-- A request is an object of such fields that names a table. -/
def accepts : Value → Bool
  | .map entries => (Value.field? entries "table").isSome && entries.all isField
  | _ => false

/-! ### Refusals -/

/-- The keys of the entries that do not satisfy a schema, none for values that are no mapping. -/
def wrongKeys (field : Value → Bool) : Value → List Value
  | .map es => (es.filter fun e => !field e.2).map (·.1)
  | _ => []

/-- What mappings under a field hold. -/
def entrySchema? (name : String) : Option (Value → Bool) :=
  if name = "columns" then some isName
  else if name = "sort" then some isText
  else none

/-- The last field by name that is not allowed. -/
def lastWrong (entries : List (Value × Value)) : Option (String × Value) :=
  entries.foldl (fun last e =>
    match e.1, last with
    | .text key, none => if isField e then none else some (key, e.2)
    | .text key, some l => if isField e || key < l.1 then some l else some (key, e.2)
    | _, _ => last) none

/-- The keys can be compared as far as finding the two least ones needs it. -/
def haveLeast (small large : Value) : List Value → Bool
  | [] => true
  | k :: ks => match k.less? large with
    | none => false
    | some false => haveLeast small large ks
    | some true => match small.less? k with
      | none => false
      | some true => haveLeast small k ks
      | some false => haveLeast k small ks

/-- Some keys have a least one, or there are none. -/
def areOrdered : List Value → Bool
  | a :: b :: rest => match a.less? b with
    | none => false
    | some true => haveLeast a b rest
    | some false => haveLeast b a rest
  | _ => true

/-- The keys that decide which entry a refusal of a value names. An unknown or a missing field of
the request itself counts more than any entry. -/
def blamedKeys : Value → List Value
  | .map entries =>
    let isKnown := fun (e : Value × Value) => match e.1 with
      | .text key => fields.any fun f => f.1 == key
      | _ => false
    if !((Value.field? entries "table").isSome && entries.all isKnown) then []
    else match lastWrong entries with
      | some (name, v) => match entrySchema? name with
        | some field => wrongKeys field v
        | none => []
      | none => []
  | _ => []

/-- The fault of a value that is no request. -/
def refusal (v : Value) : Fault := if areOrdered (blamedKeys v) then .schema else .type

end Schema

end RowQuery.Search
