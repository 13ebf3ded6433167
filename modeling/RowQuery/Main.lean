import RowQuery.Service.Setup

/-!
The setup program: the setup dialog on standard input and output, which writes its file of
variables to the current directory. The dialog is run again after each answer, and only what the
last answer added is shown.
-/

namespace RowQuery.Setup

/-- The texts of a dialog as they appear. -/
def Line.text : Line → String
  | .asked prompt => prompt
  | .told text => text

/-- The name of the file of variables. -/
def fileName : String := ".env"

/-- A dialog asks for no more answers than this. -/
def mostAnswers : Nat := 11

/-- Goes on with a dialog of which `seen` lines were shown. Gives the exit code. -/
def converse (directory : String) (file : Option String) :
    (fuel : Nat) → (answers : List String) → (seen : Nat) → IO UInt32
  | 0, _, _ => return 1
  | fuel + 1, answers, seen => do
    let (outcome, t) := run directory file answers
    for line in t.shown.drop seen do
      IO.print line.text
    match outcome with
    | .ok _ =>
      if t.file ≠ file then
        if let some content := t.file then IO.FS.writeFile fileName content
      return 0
    | .error (.fault .endOfInput) =>
      let input ← (← IO.getStdin).getLine
      if input.isEmpty then return 1
      else
        let answer := String.ofList (Text.cutChars '\n' input.toList).1
        converse directory file fuel (answers ++ [answer]) t.shown.length
    | .error _ => return 1

end RowQuery.Setup

open RowQuery.Setup in
def main : IO UInt32 := do
  let file ← try some <$> IO.FS.readFile fileName catch _ => pure none
  let directory ← IO.currentDir
  converse directory.toString file (mostAnswers + 1) [] 0
