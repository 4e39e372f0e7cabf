import ReceivingApp.Core.Python
import ReceivingApp.Lib.Program
import Mathlib.Data.List.Sort
import Mathlib.Data.Prod.Lex
import Mathlib.Data.String.Basic

open Interaction

namespace ReceivingApp

-- An exception inside of `_ensure_schema`: one of sqlite3, or any other one.
inductive SchemaExc
  | sqlite (msg : String)
  | other (e : PyExc)
  deriving DecidableEq, Repr

-- The version of a migration file and the name of the file.
abbrev Migration := Int × String

-- The variables of the script a migration is run as.
structure Script where
  migrationSql : String
  version      : Int
  deriving DecidableEq, Repr

def Script.verPragma (script : Script) : String :=
  "PRAGMA user_version = " ++ toString script.version ++ ";"

def Script.text (script : Script) : String :=
  "BEGIN;\n" ++ script.migrationSql ++ "\n" ++ script.verPragma ++ "\nCOMMIT;"

-- What `_ensure_schema` does to the file system and the database. Each of the calls to the database
-- opens a connection of its own and closes it.
inductive MigrationCall : Type → Type
  | userVersion : MigrationCall Int
  | globSql : MigrationCall (List String)
  | readText (name : String) : MigrationCall String
  | executescript (script : Script) : MigrationCall Unit

abbrev MigrationM := Program MigrationCall SchemaExc

-- `_MIGRATION_RE.match(name)` and `int(m.group(1))`. `digit` tells which characters `\d` matches.
def migrationVersion (py : PyStd) (digit : Char → Bool) (name : String) :
    Option (Except PyExc Int) :=
  match name.toList with
  | a :: b :: c :: d :: '_' :: _ =>
    if [a, b, c, d].all digit then
      match py.parseInt (String.ofList [a, b, c, d]) with
      | some ver => some (.ok ver)
      | none     => some (.error ⟨.valueError, "invalid literal for int() with base 10"⟩)
    else none
  | _ => none

section Runner

variable (py : PyStd) (digit : Char → Bool)

-- One turn of the loop over the files.
def collectPending (currentVersion : Int) (pending : List Migration) (name : String) :
    Except PyExc (List Migration) :=
  match migrationVersion py digit name with
  | none            => .ok pending
  | some (.error e) => .error e
  | some (.ok ver)  => .ok (if currentVersion < ver then pending ++ [(ver, name)] else pending)

-- The files of one directory are sorted by version and then by name.
def pendingMigrations (names : List String) (currentVersion : Int) :
    Except PyExc (List Migration) := do
  let pending ← names.foldlM (collectPending py digit currentVersion) []
  return pending.insertionSort (fun a b => (toLex a : ℤ ×ₗ String) ≤ toLex b)

def applyMigration (migration : Migration) : MigrationM Unit := do
  let migrationSql ← .perform (.readText migration.2)
  .perform (.executescript { migrationSql, version := migration.1 })

def ensureSchema : MigrationM Unit :=
  Program.tryCatch
    (do
      let currentVersion ← .perform .userVersion
      let names ← .perform .globSql
      let pending ← .ofExcept ((pendingMigrations py digit names currentVersion).mapError .other)
      pending.foldlM (fun _ migration => applyMigration migration) ())
    (fun
      | .sqlite msg => .throw (.other ⟨.repositoryError, s!"Schema setup failed — {msg}"⟩)
      | .other e    => .throw (.other e))

end Runner

-- ### The surroundings

-- The files of the directory that `glob("*.sql")` finds, with their texts.
structure SchemaDir where
  names : List String
  text  : String → String
  nodup : names.Nodup

-- A database as the migrations see it. What they do to the tables is up to SQLite, so the schema is
-- of any type. `committed` is the history of the scripts that were run to their end.
structure SchemaDb (S : Type) where
  schema      : S
  userVersion : Int
  committed   : List Script
  deriving DecidableEq, Repr

variable {S : Type}

-- A script takes effect as a whole or not at all. `exec` is the effect of a migration's own part,
-- which SQLite may reject.
def SchemaDb.commit (exec : String → S → Option S) (script : Script) (db : SchemaDb S) :
    Option (SchemaDb S) :=
  (exec script.migrationSql db.schema).map fun schema => {
    schema
    userVersion := script.version
    committed   := db.committed ++ [script]
  }

namespace SchemaDir

-- The surroundings in which nothing fails but scripts that SQLite rejects.
def handle (dir : SchemaDir) (exec : String → S → Option S) :
    Program.Handler MigrationCall SchemaExc (SchemaDb S) := fun
  | _, .userVersion, db          => (.ok db.userVersion, db)
  | _, .globSql, db              => (.ok dir.names, db)
  | _, .readText name, db        => (.ok (dir.text name), db)
  | _, .executescript script, db =>
    match db.commit exec script with
    | some db' => (.ok (), db')
    | none     => (.error (.sqlite "SQL logic error"), db)

-- What a call may do where it does not fail at its beginning. Files come in any order, and a script
-- may fail after it was committed, when its connection is closed.
def Answers (dir : SchemaDir) (exec : String → S → Option S) :
    Program.Env MigrationCall SchemaExc (SchemaDb S) := fun
  | _, .userVersion, db, r, db'          => r = .ok db.userVersion ∧ db' = db
  | _, .globSql, db, r, db'              => ∃ names, names.Perm dir.names ∧ r = .ok names ∧ db' = db
  | _, .readText name, db, r, db'        => r = .ok (dir.text name) ∧ db' = db
  | _, .executescript script, db, _, db' => db.commit exec script = some db'

-- Every call may fail without an effect.
def env (dir : SchemaDir) (exec : String → S → Option S) :
    Program.Env MigrationCall SchemaExc (SchemaDb S) := fun β op db r db' =>
  dir.Answers exec β op db r db' ∨ (∃ e, r = .error e) ∧ db' = db

-- One construction of the repository, which may raise or die anywhere.
def Restart (py : PyStd) (digit : Char → Bool) (dir : SchemaDir) (exec : String → S → Option S)
    (db db' : SchemaDb S) : Prop :=
  ∃ q, Program.Steps (dir.env exec) db (ensureSchema py digit) db' q

end SchemaDir
end ReceivingApp
