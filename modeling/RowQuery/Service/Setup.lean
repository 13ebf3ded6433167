import RowQuery.Server.Server
import RowQuery.Text.Case
import RowQuery.Value.Equality

/-!
The setup dialog, which asks for the settings of the service and writes them to a file of
variables. The file is written after the last answer, so a dialog that ends early leaves it as it
was.
-/

namespace RowQuery.Setup

/-- The text that a mapping of settings is written as. -/
def render (values : Value) : Except Error String := do
  let entries ← match values with
    | .map entries => pure entries
    | _ => failWith .type
  let field := fun (key : String) => match Value.field? entries key with
    | some v => v.written
    | none => .error (.missingSetting key)
  let url ← field "database_url"
  let tables ← field "tables_file"
  let limit ← field "max_limit"
  let level ← field "log_level"
  let origins ← field "cors_origins"
  return "# Database\nTABLEQUERY_DATABASE_URL=" ++ url ++
    "\n\n# Table mapping\nTABLEQUERY_TABLES_FILE=" ++ tables ++
    "\n\n# Limits\nTABLEQUERY_MAX_LIMIT=" ++ limit ++
    "\n\n# Logging\nTABLEQUERY_LOG_LEVEL=" ++ level ++
    "\n\n# CORS\nTABLEQUERY_CORS_ALLOW_ORIGINS=" ++ origins ++ "\n"

/-- What a dialog shows. -/
inductive Line
  | asked (prompt : String)
  | told (text : String)

/-- A dialog: the answers to come, what was shown, and the file. -/
structure Transcript where
  answers : List String
  shown : List Line := []
  file : Option String := none

abbrev Dialog (α : Type) := ExceptT Error (StateM Transcript) α

/-- Asks, and takes the next answer. -/
def ask (prompt : String) : Dialog String := do
  modify fun t => { t with shown := t.shown ++ [.asked prompt] }
  match (← get).answers with
  | [] => throw (.fault .endOfInput)
  | a :: rest =>
    modify fun t => { t with answers := rest }
    return a

/-- Asks for a setting; a blank answer is the default. -/
def askFor (prompt : String) (default : String := "") : Dialog String := do
  let a := Text.trim (← ask prompt)
  return if a.isEmpty then default else a

def tell (text : String) : Dialog Unit :=
  modify fun t => { t with shown := t.shown ++ [.told (text ++ "\n")] }

/-- Asks whether an existing file may be replaced. -/
def confirm : Dialog Bool := do
  if (← get).file.isNone then return true
  return Text.lower (← ask ".env file already exists. Overwrite? (y/N): ") == "y"

/-- Asks for the settings and writes the file, which stands in `directory`. -/
def fill (directory : String) : Dialog Unit := do
  tell "=== tablequery Environment Setup ===\n"
  tell "1. MYSQL CONFIGURATION"
  let host ← askFor "   Host [127.0.0.1]: " "127.0.0.1"
  let port ← askFor "   Port [3306]: " "3306"
  let user ← askFor "   Username: "
  let password ← askFor "   Password: "
  let database ← askFor "   Database: "
  tell "\n2. TABLE MAPPING"
  let tables ← askFor "   Mapping file [config/tables.yaml]: " "config/tables.yaml"
  tell "\n3. OPTIONAL SETTINGS"
  let limit ← askFor "   Max rows per request [1000]: " "1000"
  let level ← askFor "   Log level [INFO]: "
  let level := if level.isEmpty then "INFO" else Text.upper level
  let origins ← askFor "   Allowed Origins [http://localhost:3000]: " "http://localhost:3000"
  let url := Server.url user password host port database
  let content ← ExceptT.mk (pure (render (.map
    [(.text "database_url", .text url), (.text "tables_file", .text tables),
      (.text "max_limit", .text limit), (.text "log_level", .text level),
      (.text "cors_origins", .text origins)])))
  modify fun t => { t with file := some content }
  tell "\n✅ .env file created successfully!"
  tell ("📁 Location: " ++ directory ++ "/.env")
  tell "\n📋 Next steps:"
  tell ("   1. List your tables in " ++ tables)
  tell "   2. Run the application"

/-- The whole dialog; a file that stands is left alone unless its replacement is confirmed. -/
def createFile (directory : String) : Dialog Unit := do
  if ← confirm then fill directory else tell "Setup cancelled."

/-- The dialog with the given answers, on a file that may exist. -/
def run (directory : String) (file : Option String) (answers : List String) :
    Except Error Unit × Transcript :=
  (createFile directory).run.run { answers, file }

end RowQuery.Setup
