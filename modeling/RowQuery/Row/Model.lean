/-!
Models: the classes rows are read into. A model declares fields with a type and a default, says
whether its rows are records that can be saved, and whether saves and deletes call hooks. The names
of a model's functions and properties are not free for columns.
-/

namespace RowQuery

/-- The declared types of fields, with their defaults: no integer, and the empty text. -/
inductive FieldType
  | optionalInteger
  | text
  deriving DecidableEq, Repr

structure Field where
  name : String
  type : FieldType
  deriving DecidableEq, Repr

/-- What happens around each save and delete of a record. -/
inductive Hooks
  | none
  /-- Hooks are called that do nothing. -/
  | silent
  /-- Hooks are called that announce themselves. -/
  | announced
  deriving DecidableEq, Repr

structure Model where
  name : String
  fields : List Field := []
  /-- Rows of the model belong to a table and can be saved and deleted. -/
  isRecord : Bool := true
  hooks : Hooks := .none
  deriving DecidableEq, Repr

namespace Model

/-- Plain rows, which keep every column and belong to no table. -/
def result : Model := { name := "Result", isRecord := false }

/-- Rows of a table without declared fields. -/
def record : Model := { name := "Record" }

/-- The functions of all rows. -/
def rowFunctions : List String :=
  ["from_row", "as_dict", "has_property", "value_of", "model_construct", "model_copy",
    "model_dump", "model_dump_json", "model_fields", "model_computed_fields",
    "model_json_schema", "model_parametrized_name", "model_post_init", "model_rebuild",
    "model_validate", "model_validate_json", "model_validate_strings", "construct", "copy", "dict",
    "from_orm", "json", "parse_file", "parse_obj", "parse_raw", "schema", "schema_json",
    "update_forward_refs", "validate"]

/-- The functions of records. -/
def recordFunctions : List String :=
  ["bind", "primary_key_values", "save", "delete", "_require_table", "_self_query"]

/-- The functions called around saves and deletes. -/
def hookFunctions : List String :=
  ["before_saving", "after_saving", "before_deleting", "after_deleting"]

/-- The names of a model's functions. -/
def functions (m : Model) : List String :=
  rowFunctions ++ (if m.isRecord then recordFunctions else []) ++
    if m.hooks = .none then [] else hookFunctions

/-- The names of a model's properties, which cannot be set. -/
def properties (m : Model) : List String :=
  ["model_extra", "model_fields_set"] ++ if m.isRecord then ["is_new", "table"] else []

end Model

end RowQuery
