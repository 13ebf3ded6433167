import RowQuery.Proofs.Running
import RowQuery.Proofs.ServerUrl
import RowQuery.Service.Setup

/-! Runs of the setup dialog. A dialog that completes has either left the file alone or taken nine
answers and written their settings. -/

namespace RowQuery.Setup

open Running Text

/-! ### Questions -/

section Questions

variable {α : Type} {t u : Transcript} {y : α} {prompt default : String}

/-- A setting: the answer without blanks around it, or the default in place of a blank answer. -/
def setting (default answer : String) : String :=
  if (trim answer).isEmpty then default else trim answer

theorem setting_empty (answer : String) : setting "" answer = trim answer := by
  unfold setting
  split_ifs with h
  · exact (String.isEmpty_iff.mp h).symm
  · rfl

theorem run_tell_bind (text : String) (f : Unit → Dialog α) (t : Transcript) :
    (tell text >>= f).run.run t =
      (f ()).run.run { t with shown := t.shown ++ [.told (text ++ "\n")] } := rfl

theorem run_tell (text : String) (t : Transcript) :
    (tell text).run.run t = (.ok (), { t with shown := t.shown ++ [.told (text ++ "\n")] }) := rfl

theorem run_modify_bind (g : Transcript → Transcript) (f : Unit → Dialog α) (t : Transcript) :
    ((modify g : Dialog Unit) >>= f).run.run t = (f ()).run.run (g t) := rfl

theorem run_ok_bind {β : Type} (x : β) (f : β → Dialog α) (t : Transcript) :
    ((ExceptT.mk (pure (.ok x)) : Dialog β) >>= f).run.run t = (f x).run.run t := rfl

theorem run_ask_bind_eq_ok {f : String → Dialog α} :
    (ask prompt >>= f).run.run t = (.ok y, u) ↔ ∃ a rest, t.answers = a :: rest ∧
      (f a).run.run { t with answers := rest, shown := t.shown ++ [.asked prompt] } =
        (.ok y, u) := by
  obtain ⟨answers, shown, file⟩ := t
  cases answers with
  | nil =>
    have hrun : (ask prompt).run.run ⟨[], shown, file⟩ =
        (.error (.fault .endOfInput), ⟨[], shown ++ [.asked prompt], file⟩) := rfl
    rw [run_bind_of_error hrun]
    exact iff_of_false (fun h => nomatch h) (by simp)
  | cons a rest =>
    have hrun : (ask prompt).run.run ⟨a :: rest, shown, file⟩ =
        (.ok a, ⟨rest, shown ++ [.asked prompt], file⟩) := rfl
    rw [run_bind_of_ok hrun]
    simp

theorem run_askFor_bind_eq_ok {f : String → Dialog α} :
    (askFor prompt default >>= f).run.run t = (.ok y, u) ↔ ∃ a rest, t.answers = a :: rest ∧
      (f (setting default a)).run.run
        { t with answers := rest, shown := t.shown ++ [.asked prompt] } = (.ok y, u) := by
  rw [askFor, bind_assoc, run_ask_bind_eq_ok]
  rfl

theorem run_askFor_bind (a : String) (rest : List String) (shown : List Line)
    (file : Option String) (f : String → Dialog α) :
    (askFor prompt default >>= f).run.run ⟨a :: rest, shown, file⟩ =
      (f (setting default a)).run.run ⟨rest, shown ++ [.asked prompt], file⟩ := rfl

end Questions

/-! ### Whole dialogs -/

/-- The text of a file of settings. -/
def settingsText (url tables limit level origins : String) : String :=
  "# Database\nTABLEQUERY_DATABASE_URL=" ++ url ++
    "\n\n# Table mapping\nTABLEQUERY_TABLES_FILE=" ++ tables ++
    "\n\n# Limits\nTABLEQUERY_MAX_LIMIT=" ++ limit ++
    "\n\n# Logging\nTABLEQUERY_LOG_LEVEL=" ++ level ++
    "\n\n# CORS\nTABLEQUERY_CORS_ALLOW_ORIGINS=" ++ origins ++ "\n"

/-- What is typed in answer to the questions about settings. -/
structure Answers where
  host : String
  port : String
  user : String
  password : String
  database : String
  tables : String
  limit : String
  level : String
  origins : String

namespace Answers

variable (a : Answers)

/-- The answers in the order of the questions. -/
def toList : List String :=
  [a.host, a.port, a.user, a.password, a.database, a.tables, a.limit, a.level, a.origins]

def url : String :=
  Server.url (trim a.user) (trim a.password) (setting "127.0.0.1" a.host) (setting "3306" a.port)
    (trim a.database)

/-- The file that the answers are written to. -/
def content : String :=
  settingsText a.url (setting "config/tables.yaml" a.tables) (setting "1000" a.limit)
    (if (trim a.level).isEmpty then "INFO" else upper (trim a.level))
    (setting "http://localhost:3000" a.origins)

end Answers

/-- The first answer to a dialog on an existing file lets it stand. -/
def declines : Option String → List String → Bool
  | some _, first :: _ => lower first != "y"
  | _, _ => false

/-- The answers after the one about an existing file. -/
def answersLeft (file : Option String) (answers : List String) : List String :=
  if file.isSome then answers.tail else answers

/-- The question that a line asks. -/
def Line.question? : Line → Option String
  | .asked prompt => some prompt
  | .told _ => none

/-- The questions about settings. -/
def questions : List String :=
  ["   Host [127.0.0.1]: ", "   Port [3306]: ", "   Username: ", "   Password: ",
    "   Database: ", "   Mapping file [config/tables.yaml]: ",
    "   Max rows per request [1000]: ", "   Log level [INFO]: ",
    "   Allowed Origins [http://localhost:3000]: "]

/-- All questions of a dialog, the one about an existing file first. -/
def questionsOn (file : Option String) : List String :=
  if file.isSome then ".env file already exists. Overwrite? (y/N): " :: questions else questions

variable {directory : String} {file : Option String} {answers : List String} {t : Transcript}

theorem run_confirm_eq_ok {go : Bool} {u : Transcript}
    (h : confirm.run.run t = (.ok go, u)) :
    go = !declines t.file t.answers ∧ u.answers = answersLeft t.file t.answers ∧
      u.file = t.file := by
  obtain ⟨answers, shown, file⟩ := t
  cases file with
  | none =>
    obtain ⟨rfl, rfl⟩ : true = go ∧ _ = u := by simpa using Prod.mk.inj h
    exact ⟨rfl, rfl, rfl⟩
  | some old =>
    cases answers with
    | nil => cases h
    | cons a rest =>
      cases h
      exact ⟨(Bool.not_not _).symm, rfl, rfl⟩

theorem render_settings (url tables limit level origins : String) :
    render (.map [(.text "database_url", .text url), (.text "tables_file", .text tables),
        (.text "max_limit", .text limit), (.text "log_level", .text level),
        (.text "cors_origins", .text origins)]) =
      .ok (settingsText url tables limit level origins) := rfl

theorem run_fill_eq_ok {u : Transcript} (h : (fill directory).run.run t = (.ok (), u)) :
    ∃ (a : Answers) (rest : List String), t.answers = a.toList ++ rest ∧
      u.file = some a.content := by
  simp only [fill, run_tell_bind, run_askFor_bind_eq_ok] at h
  obtain ⟨host, _, hhost, port, _, rfl, user, _, rfl, password, _, rfl, database, _, rfl, tables,
    _, rfl, limit, _, rfl, level, _, rfl, origins, rest, rfl, h⟩ := h
  rw [render_settings, run_ok_bind, run_modify_bind] at h
  simp only [run_tell_bind, run_tell] at h
  obtain rfl := (Prod.mk.inj h).2
  refine ⟨⟨host, port, user, password, database, tables, limit, level, origins⟩, rest, hhost, ?_⟩
  simp only [Answers.content, Answers.url, setting_empty]

/-- Nine answers are enough, and no more of them are taken. -/
theorem run_fill (directory : String) (a : Answers) (rest : List String) (shown : List Line)
    (file : Option String) : ∃ lines, lines.filterMap Line.question? = questions ∧
      (fill directory).run.run ⟨a.toList ++ rest, shown, file⟩ =
        (.ok (), ⟨rest, shown ++ lines, some a.content⟩) := by
  simp only [fill, Answers.toList, List.cons_append, run_tell_bind, run_askFor_bind]
  rw [render_settings, run_ok_bind, run_modify_bind]
  simp only [run_tell_bind, run_tell, List.append_assoc, List.nil_append, List.cons_append,
    Answers.content, Answers.url, setting_empty]
  exact ⟨_, rfl, rfl⟩

theorem run_eq_ok (h : run directory file answers = (.ok (), t)) :
    (declines file answers = true ∧ t.file = file) ∨ (declines file answers = false ∧
      ∃ (a : Answers) (rest : List String), answersLeft file answers = a.toList ++ rest ∧
        t.file = some a.content) := by
  rw [run, createFile, run_bind_eq_ok] at h
  obtain ⟨go, u, hgo, h⟩ := h
  obtain ⟨rfl, hanswers, hfile⟩ := run_confirm_eq_ok hgo
  cases hd : declines file answers with
  | true =>
    simp only [hd, Bool.not_true, Bool.false_eq_true, if_false, run_tell] at h
    obtain rfl := (Prod.mk.inj h).2
    exact .inl ⟨rfl, hfile⟩
  | false =>
    simp only [hd, Bool.not_false, if_true] at h
    obtain ⟨a, rest, hleft, hwritten⟩ := run_fill_eq_ok h
    exact .inr ⟨rfl, a, rest, hanswers.symm.trans hleft, hwritten⟩

/-- A dialog that is not stopped at an existing file completes when its questions are answered. -/
theorem run_completes (directory : String) {a : Answers} {rest : List String}
    (hd : declines file answers = false)
    (ha : answersLeft file answers = a.toList ++ rest) :
    ∃ t, run directory file answers = (.ok (), t) ∧ t.file = some a.content ∧ t.answers = rest ∧
      t.shown.filterMap Line.question? = questionsOn file := by
  have hconfirm : ∃ shown, confirm.run.run { answers, file } =
      (.ok true, ⟨a.toList ++ rest, shown, file⟩) ∧
        shown.filterMap Line.question? ++ questions = questionsOn file := by
    cases file with
    | none =>
      obtain rfl : answers = _ := ha
      exact ⟨_, rfl, rfl⟩
    | some old =>
      cases answers with
      | nil => cases ha
      | cons first left =>
        obtain rfl : left = _ := ha
        have hfirst : (lower first == "y") = true := by simpa [declines] using hd
        exact ⟨_, congrArg (fun b => (Except.ok b, _)) hfirst, rfl⟩
  obtain ⟨shown, hconfirm, hopening⟩ := hconfirm
  obtain ⟨lines, hlines, hfill⟩ := run_fill directory a rest shown file
  refine ⟨_, (run_bind_of_ok hconfirm _).trans hfill, rfl, rfl, ?_⟩
  rw [List.filterMap_append, hlines, hopening]

theorem run_of_answers (directory : String) {a : Answers} {rest : List String}
    (hd : declines file answers = false)
    (ha : answersLeft file answers = a.toList ++ rest) :
    ∃ t, run directory file answers = (.ok (), t) ∧ t.file = some a.content := by
  obtain ⟨t, h, hfile, -⟩ := run_completes directory hd ha
  exact ⟨t, h, hfile⟩

/-! ### The written URL -/

theorem isHost_default : Server.IsHost "127.0.0.1" where
  nonempty := by decide
  chars := by simp [Server.isHostChar]

theorem isPort_default : Server.IsPort "3306" 3306 where
  digits := by simp
  value := by decide
  positive := by decide
  bounded := by decide

/-- A dialog that goes on to the settings and completes writes its answers, and with the default
host and port the URL among them is read with the user and the password that were typed. It is
accepted with the database that was typed exactly when a URL keeps that name. -/
theorem written_url_read_iff (h : run directory file answers = (.ok (), t))
    (hd : declines file answers = false) :
    ∃ (a : Answers) (rest : List String), answersLeft file answers = a.toList ++ rest ∧
      t.file = some a.content ∧
      (setting "127.0.0.1" a.host = "127.0.0.1" → setting "3306" a.port = "3306" →
        (∀ s, Server.ofUrl (.text a.url) = .ok s →
          s.user = trim a.user ∧ s.password = trim a.password) ∧
        ((∃ s, Server.ofUrl (.text a.url) = .ok s ∧ s.user = trim a.user ∧
          s.password = trim a.password ∧ s.database = trim a.database) ↔
            Server.IsKeptName (trim a.database))) := by
  rcases run_eq_ok h with ⟨hdecline, -⟩ | ⟨-, a, rest, hleft, hfile⟩
  · exact absurd (hd.symm.trans hdecline) Bool.false_ne_true
  refine ⟨a, rest, hleft, hfile, fun hhost hport => ?_⟩
  have hread := @Server.ofUrl_url_eq_ok _ _ _ isHost_default isPort_default (trim a.user)
    (trim a.password) (trim a.database)
  rw [Answers.url, hhost, hport]
  constructor
  · intro s hs
    obtain ⟨-, -, rfl⟩ := hread.mp hs
    exact ⟨rfl, rfl⟩
  · rw [← Server.ofUrl_url_identity_iff isHost_default isPort_default (trim a.user)
      (trim a.password)]
    refine exists_congr fun s => and_congr_right fun hs => ?_
    obtain ⟨-, -, rfl⟩ := hread.mp hs
    simp [Server.identity]

/-- A dialog with the default host and port, one password and one database. -/
def shopAnswers (password database : String) : Answers :=
  ⟨"", "", "app", password, database, "", "", "", ""⟩

theorem shopAnswers_read : ∃ t,
    run "/srv" (some "") ("y" :: (shopAnswers "p@ss:word" "shop").toList) = (.ok (), t) ∧
      ∃ (a : Answers) (rest : List String),
        answersLeft (some "") ("y" :: (shopAnswers "p@ss:word" "shop").toList) = a.toList ++ rest ∧
        t.file = some a.content ∧
        (setting "127.0.0.1" a.host = "127.0.0.1" → setting "3306" a.port = "3306" →
          (∀ s, Server.ofUrl (.text a.url) = .ok s →
            s.user = trim a.user ∧ s.password = trim a.password) ∧
          ((∃ s, Server.ofUrl (.text a.url) = .ok s ∧ s.user = trim a.user ∧
            s.password = trim a.password ∧ s.database = trim a.database) ↔
              Server.IsKeptName (trim a.database))) := by
  have hleft : answersLeft (some "") ("y" :: (shopAnswers "p@ss:word" "shop").toList) =
      (shopAnswers "p@ss:word" "shop").toList ++ [] := rfl
  obtain ⟨t, h, -⟩ := run_of_answers "/srv" (by decide) hleft
  exact ⟨t, h, written_url_read_iff h (by decide)⟩

/-- The part of a name after a number sign is written to the file, and is no part of the database
that the URL names. -/
theorem salesAnswers_cut : ∃ t,
    run "/srv" none (shopAnswers "" "sales#2024").toList = (.ok (), t) ∧
      t.file = some (shopAnswers "" "sales#2024").content ∧
      (shopAnswers "" "sales#2024").url = "mysql://app@127.0.0.1:3306/sales#2024" ∧
      Server.ofUrl (.text (shopAnswers "" "sales#2024").url) =
        .ok { user := "app", database := "sales" } ∧
      trim (shopAnswers "" "sales#2024").database ≠ "sales" := by
  have hleft : answersLeft none (shopAnswers "" "sales#2024").toList =
      (shopAnswers "" "sales#2024").toList ++ [] := rfl
  obtain ⟨t, h, hfile⟩ := run_of_answers "/srv" rfl hleft
  exact ⟨t, h, hfile, rfl, rfl, by decide⟩

end RowQuery.Setup
