import RowQuery.Error
import RowQuery.Text.Utf8
import RowQuery.Value.Equality
import RowQuery.Value.Plain

/-!
Rows: the columns of a result read into a model. Declared fields come first and all of them are
present; other columns follow in their order. A declared field is converted to its type or refused
when a row is read, and taken as it is when it is assigned. A value assigned under the name of a
function, or under a name that starts with an underscore, is attached to the row and no column.
-/

namespace RowQuery

/-- A table, by its number, with the database it is part of. -/
structure Table where
  id : Nat
  name : String
  database : Option Nat
  deriving DecidableEq, Repr

/-- What a record belongs to: a table, or a value that was put in its place. -/
inductive Owner
  | table (t : Table)
  | value (v : Value)

structure Row where
  model : Model
  fields : List (String × Value)
  extras : List (String × Value)
  /-- The declared fields that were given a value. -/
  given : List String
  /-- Values under names that are no columns. -/
  attached : List (String × Value) := []
  owner : Option Owner := none
  /-- A record is new when this counts as true. -/
  isNew : Value := .bool true

namespace FieldType

/-- The value of a field that is not given. -/
def default : FieldType → Value
  | .optionalInteger => .null
  | .text => .text ""

/-- An integer as JSON writes it: no leading zeros, and a minus for its only sign. -/
def jsonInteger? (cs : List Char) : Option Int :=
  let (negative, digits) := match cs with
    | '-' :: ds => (true, ds)
    | ds => (false, ds)
  let isPlain := digits = ['0'] ∨ (digits.head? ≠ some '0' ∧ digits ≠ [] ∧ digits.all Char.isDigit)
  if Text.maxDigits < cs.length ∨ ¬ isPlain then none
  else
    let n : Int := Text.ofDigits (digits.map fun c => c.toNat - 48)
    some (if negative then -n else n)

/-- What follows leading zeros and the underscores among them, none when it is no number. Before a
point, and at the end of the text, the `last` of them stays. -/
def afterZeros? (last : Char) : List Char → Option (List Char)
  | [] => some [last]
  | c :: cs =>
    if c = '0' ∨ c = '_' then afterZeros? c cs
    else if c.isDigit ∨ c = '-' then some (c :: cs)
    else if c = '.' then some (last :: c :: cs)
    else none

/-- A text that starts with a digit or a minus, without leading zeros. -/
def dropZeros? : List Char → Option (List Char)
  | [] => none
  | c :: cs =>
    if c = '0' then afterZeros? c cs
    else if c.isDigit ∨ c = '-' then some (c :: cs)
    else none

/-- The text before a point that only zeros follow. -/
def dropFraction (cs : List Char) : List Char :=
  match Text.cutChars '.' cs with
  | (whole, some part) => if !part.isEmpty && part.all (· == '0') then whole else cs
  | (_, none) => cs

/-- The text has an underscore next to another one. -/
def hasDoubleUnderscore : List Char → Bool
  | c :: d :: cs => (c == '_' && d == '_') || hasDoubleUnderscore (d :: cs)
  | _ => false

/-- The text without underscores, when each stands alone between two characters. -/
def dropUnderscores (cs : List Char) : List Char :=
  if cs.head? = some '_' ∨ cs.getLast? = some '_' ∨ hasDoubleUnderscore cs then cs
  else cs.filter (· != '_')

/-- An integer in a text: as JSON writes it, or with blanks around, leading zeros, a fraction of
zeros, and single underscores. -/
def integerText? (cs : List Char) : Option Int :=
  (jsonInteger? cs).or ((dropZeros? (Text.trimNumber cs)).bind fun cs =>
    jsonInteger? (dropUnderscores (dropFraction cs)))

/-- The integers that a double may stand for: those of fewer than 64 bits. -/
def fitsWord (n : Int) : Bool := n.natAbs < Nat.pow 2 63

/-- A value converted to the type of a field. -/
def read? : FieldType → Value → Option Value
  | .optionalInteger, .null => some .null
  | .optionalInteger, .int n => some (.int n)
  | .optionalInteger, .bool b => some (.int (if b then 1 else 0))
  | .optionalInteger, .float x => (x.toInt?.filter fitsWord).map .int
  | .optionalInteger, .text s => (integerText? s.toList).map .int
  | .optionalInteger, .bytes bs => ((Text.decodeUtf8? bs).bind integerText?).map .int
  | .text, .text s => some (.text s)
  | .text, .bytes bs => (Text.decodeUtf8? bs).map fun cs => .text (String.ofList cs)
  | _, _ => none

end FieldType

namespace Row

/-- The declared fields of a model with the values of some columns, unless one has a wrong type. -/
def readFields (columns : List (String × Value)) : List Field → Except Fault (List (String × Value))
  | [] => .ok []
  | f :: fs =>
    match Keyed.find? columns f.name with
    | none => (readFields columns fs).map fun rest => (f.name, f.type.default) :: rest
    | some v => match f.type.read? v with
      | none => .error .row
      | some w => (readFields columns fs).map fun rest => (f.name, w) :: rest

/-- A row of a model with the values of some columns. -/
def ofColumns (model : Model) (columns : List (String × Value)) : Except Fault Row := do
  let names := model.fields.map (·.name)
  let fields ← readFields columns model.fields
  return { model
           fields
           extras := columns.filter fun c => !names.contains c.1
           given := names.filter (Keyed.hasKey columns) }

/-- The pairs of a mapping whose keys are texts. -/
def textKeys? (entries : List (Value × Value)) : Option (List (String × Value)) :=
  entries.mapM fun e => match e.1 with
    | .text name => some (name, e.2)
    | _ => none

/-- A row of a model with the columns of a mapping; `bad` is the fault of any other value. -/
def ofValue (model : Model) (values : Value) (bad : Fault) : Except Fault Row :=
  match values with
  | .map entries => match textKeys? entries with
    | some columns => ofColumns model columns
    | none => .error bad
  | _ => .error bad

/-- The row as it is read from a table: a record belongs to the table and is not new. -/
def read (table : Option Table) (r : Row) : Row :=
  if r.model.isRecord then { r with owner := table.map .table, isNew := .bool false } else r

/-- A row read from a result. -/
def hydrate (model : Model) (columns : List (String × Value)) (table : Option Table) :
    Except Fault Row := (ofColumns model columns).map (read table)

/-- All columns of a row, declared ones first. -/
def toColumns (r : Row) : List (String × Value) := r.fields ++ r.extras

/-- Columns as a mapping of plain data. -/
def plainMap (columns : List (String × Value)) : Value :=
  .map (columns.map fun c => (.text c.1, c.2.plain))

/-- A row as a mapping. -/
def toValue (r : Row) : Value := plainMap r.toColumns

/-- The columns that were given a value: all but the declared ones left at their default. -/
def givenColumns (r : Row) : List (String × Value) :=
  r.fields.filter (fun c => r.given.contains c.1) ++ r.extras

/-! ### Attributes -/

/-- What a record belongs to, as a value. -/
def ownerValue (r : Row) : Value :=
  match r.owner with
  | none => .null
  | some (.table t) => .table { name := t.name, id := t.id }
  | some (.value v) => v

/-- A property of a row. The names of given fields are no value. -/
def property (r : Row) (name : String) : Except Fault Value :=
  if name = "is_new" then .ok r.isNew
  else if name = "table" then .ok r.ownerValue
  else if name = "model_extra" then .ok (.map (r.extras.map fun c => (.text c.1, c.2)))
  else .error .type

/-- The settings of all models: further columns are kept. -/
def settings : Value := .map [(.text "extra", .text "allow")]

/-- What stands under a name, none when nothing does: a property, a declared field, an attached
value, and only then another column. A function is no value. -/
def attribute? (r : Row) (name : String) : Except Fault (Option Value) :=
  if r.model.properties.contains name then (r.property name).map some
  else match Keyed.find? (r.fields ++ r.attached) name with
    | some v => .ok (some v)
    | none =>
      if name = "model_config" then .ok (some settings)
      else if r.model.functions.contains name then .error .type
      else if r.model.isRecord && name == "_table" then .ok (some r.ownerValue)
      else if r.model.isRecord && name == "_new" then .ok (some r.isNew)
      else .ok (Keyed.find? r.extras name)

/-- The attribute a value names; only texts are names. -/
def get (r : Row) (name : Value) : Except Fault Value :=
  match name with
  | .text s => do
    match ← r.attribute? s with
    | some v => return v
    | none => throw .attribute
  | _ => .error .type

/-- The attribute a value names, or a value for a missing one. -/
def getD (r : Row) (name default : Value) : Except Fault Value :=
  match name with
  | .text s => (r.attribute? s).map fun v => v.getD default
  | _ => .error .type

/-- The row with a value under a name that is no column. -/
def attach (r : Row) (name : String) (v : Value) : Row :=
  { r with attached := Keyed.put r.attached name v }

/-- The row with a declared field set, which then counts as given. -/
def setField (r : Row) (name : String) (v : Value) : Row :=
  { r with
    fields := Keyed.put r.fields name v
    given := if r.given.contains name then r.given else r.given ++ [name] }

/-- The row with a value under a name that starts with an underscore. What a record belongs to and
whether it is new are set this way. -/
def assignHidden (r : Row) (name : String) (v : Value) : Row :=
  if r.model.isRecord && name == "_table" then
    { r with owner := match v with | .null => none | v => some (.value v) }
  else if r.model.isRecord && name == "_new" then { r with isNew := v }
  else r.attach name v

/-- The row with a value under a name; properties cannot be set. -/
def assign (r : Row) (name : String) (v : Value) : Except Fault Row :=
  if name.toList.head? = some '_' then .ok (r.assignHidden name v)
  else if r.model.properties.contains name then .error .attribute
  else if Keyed.hasKey r.fields name then .ok (r.setField name v)
  else if name = "model_config" ∨ r.model.functions.contains name then .ok (r.attach name v)
  else .ok { r with extras := Keyed.put r.extras name v }

/-- The row with a value under the name that a value gives. -/
def set (r : Row) (name v : Value) : Except Fault Row :=
  match name with
  | .text s => r.assign s v
  | _ => .error .type

/-! ### Functions -/

/-- A function of the row's model can be called, unless a value is attached in its place. No other
attribute can. -/
def checkCall (r : Row) (name : String) : Except Fault Unit :=
  if Keyed.hasKey r.attached name then .error .type
  else if r.model.functions.contains name then .ok ()
  else do
    let _ ← r.get (.text name)
    throw .type

/-- Some columns of a row as plain data. -/
def dump (r : Row) (columns : List (String × Value)) : Except Fault Value := do
  r.checkCall "model_dump"
  return plainMap columns

/-- All columns of a row as plain data. -/
def asMapping (r : Row) : Except Fault Value := do
  r.checkCall "as_dict"
  r.dump r.toColumns

/-- A column has this name. Values that cannot be keys are refused. -/
def hasProperty (r : Row) (name : Value) : Except Fault Bool := do
  r.checkCall "has_property"
  let _ ← r.asMapping
  match name with
  | .text s => return Keyed.hasKey r.toColumns s
  | v => if v.isKey then return false else throw .type

/-- The attribute a value names, or a value for a missing one. -/
def valueOf (r : Row) (name default : Value) : Except Fault Value := do
  r.checkCall "value_of"
  r.getD name default

end Row

end RowQuery
