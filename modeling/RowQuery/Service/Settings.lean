import RowQuery.Error
import RowQuery.Text.Case
import RowQuery.Text.Path

/-!
Settings of the service, read from variables of the environment, each with its default, and the
logging that they configure.
-/

namespace RowQuery

structure Settings where
  databaseUrl : String := ""
  tablesFile : String := "config/tables.yaml"
  maxLimit : Int := 1000
  logLevel : String := "INFO"
  origins : List String := []

namespace Settings

/-- The parts of a list between commas, trimmed, without the blank ones. -/
def readOrigins (s : String) : List String :=
  ((Text.split ',' s).map Text.trim).filter fun o => !o.isEmpty

/-- The settings that an environment gives, where `lookup` finds its variables. -/
def ofEnvironment (lookup : String → Option String) : Except Error Settings := do
  let maxLimit ← (Value.text ((lookup "TABLEQUERY_MAX_LIMIT").getD "1000")).integer
  return { databaseUrl := (lookup "TABLEQUERY_DATABASE_URL").getD ""
           tablesFile := Text.normalizePath
             ((lookup "TABLEQUERY_TABLES_FILE").getD "config/tables.yaml")
           maxLimit
           logLevel := Text.upper ((lookup "TABLEQUERY_LOG_LEVEL").getD "INFO")
           origins := readOrigins ((lookup "TABLEQUERY_CORS_ALLOW_ORIGINS").getD "") }

/-- The settings as a mapping. -/
def toValue (s : Settings) : Value :=
  .map [(.text "database_url", .text s.databaseUrl), (.text "tables_file", .text s.tablesFile),
    (.text "max_limit", .int s.maxLimit), (.text "log_level", .text s.logLevel),
    (.text "cors_allow_origins", Value.ofStrings s.origins)]

end Settings

namespace Logging

def format : String := "%(asctime)s %(levelname)s %(name)s: %(message)s"

/-- What logging is set up with. -/
structure Setup where
  level : Value
  format : String

/-- Sets logging up, once; `done` is what it was set up with before. -/
def configure (done : Option Setup) (level : Value := .null) : Option Setup :=
  match done with
  | some setup => some setup
  | none => some { level := if level.isTruthy then level else .text "INFO", format }

end Logging

end RowQuery
