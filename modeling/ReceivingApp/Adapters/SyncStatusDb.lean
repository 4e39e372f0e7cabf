import ReceivingApp.Adapters.Migrations
import ReceivingApp.Core.Robot
import ReceivingApp.Lib.Table

open Interaction Relational

namespace ReceivingApp

-- ### The table

-- A row of `sync_status`.
structure SyncStatusRow where
  id                  : Int
  state               : SyncState
  lastOutcome         : LastOutcome
  consecutiveFailures : Nat
  stoppedReason       : String
  updatedAt           : String
  deriving DecidableEq, Repr

namespace SyncStatusRow

-- The primary key.
def key (row : SyncStatusRow) : Option Int :=
  some row.id

-- `DO UPDATE SET … = excluded.…` leaves the id as it is.
def update (excluded row : SyncStatusRow) : SyncStatusRow :=
  { excluded with id := row.id }

theorem key_update (excluded row : SyncStatusRow) : (excluded.update row).key = row.key :=
  rfl

-- The one row there is.
def ofRecord (record : SyncStatusRecord) : SyncStatusRow where
  id                  := 1
  state               := record.state
  lastOutcome         := record.lastOutcome
  consecutiveFailures := record.consecutiveFailures
  stoppedReason       := record.stoppedReason
  updatedAt           := record.updatedAt

def record (row : SyncStatusRow) : SyncStatusRecord where
  state               := row.state
  lastOutcome         := row.lastOutcome
  consecutiveFailures := row.consecutiveFailures
  stoppedReason       := row.stoppedReason
  updatedAt           := row.updatedAt

@[simp]
theorem record_ofRecord (record : SyncStatusRecord) : (ofRecord record).record = record :=
  rfl

end SyncStatusRow

-- The database as the store sees it, where the table may not have been created yet.
abbrev SyncDb := Option (Table SyncStatusRow.key)

-- What the store has a database do. Each of these opens a connection of its own.
inductive SyncSql : Type → Type
  | createTable : SyncSql Unit
  | insertOnConflict (row : SyncStatusRow) : SyncSql Unit
  | selectWhereId (id : Int) : SyncSql (Option SyncStatusRow)

-- What comes of a statement, and of the transaction it stands in. There may be no such table.
def SyncDb.execute : ∀ {β : Type}, SyncSql β → SyncDb → Option (β × SyncDb)
  | _, .createTable, db          => some ((), some (db.getD .empty))
  | _, .insertOnConflict row, db =>
    db.map fun t => ((), some (t.upsert row row.update row.key_update))
  | _, .selectWhereId id, db     => db.map fun t => (t.find id, some t)

-- ### The store

abbrev SyncStoreM := Program SyncSql SchemaExc

namespace SyncStatusSQLiteStore

-- `try: … except sqlite3.Error as exc: raise RepositoryError(…) from exc`
def tryRepository {α : Type} (what : String) (p : SyncStoreM α) : SyncStoreM α :=
  Program.tryCatch p (fun
    | .sqlite msg => .throw (.other ⟨.repositoryError, s!"{what} failed — {msg}"⟩)
    | .other e    => .throw (.other e))

def ensureSchema : SyncStoreM Unit :=
  tryRepository "sync_status schema setup" (.perform .createTable)

def writeSyncStatus (record : SyncStatusRecord) : SyncStoreM Unit :=
  tryRepository "write_sync_status" (.perform (.insertOnConflict (.ofRecord record)))

def readSyncStatus : SyncStoreM (Option SyncStatusRecord) :=
  tryRepository "read_sync_status" (do
    let row ← .perform (.selectWhereId 1)
    return row.map SyncStatusRow.record)

end SyncStatusSQLiteStore

-- ### The robot and its store

-- What the robot has done to items and to its status.
inductive RobotAct
  | wrote (record : SyncStatusRecord)
  | received (call : ReceiveCall)
  | mutated (m : Mutation)
  deriving DecidableEq, Repr

-- The log tells what has been done, in order.
structure RobotSite where
  db  : SyncDb
  log : List RobotAct

namespace RobotSite

-- Nothing is stored yet.
def init : RobotSite :=
  ⟨none, []⟩

def acts : ∀ {β : Type}, SyncSql β → List RobotAct
  | _, .insertOnConflict row => [.wrote row.record]
  | _, _                     => []

def Raises {β : Type} (r : Except SchemaExc β) : Prop :=
  ∃ e, r = .error e ∧ ∀ e', e = .other e' → e'.cls ≠ .executorError

-- Every statement may raise. It may have been committed all the same.
def SqlAnswers : Program.Env SyncSql SchemaExc RobotSite := fun _ op s r s' =>
  (∃ b db', s.db.execute op = some (b, db') ∧ (r = .ok b ∨ Raises r) ∧
    s' = { db := db', log := s.log ++ acts op }) ∨
  (Raises r ∧ s' = s)

-- A method of the store that comes to a result.
def Ends {α : Type} (p : SyncStoreM α) (s : RobotSite) (r : Except PyExc α) (s' : RobotSite) :
    Prop :=
  Program.Steps SqlAnswers s p s' (.ofExcept (r.mapError .other))

-- Other processes have stores of their own, but write no status. At most they create the table.
def Others (s s' : RobotSite) : Prop :=
  s' = s ∨ s' = { s with db := some (s.db.getD .empty) }

-- How the calls of the robot may be answered, where the board and the portal may do anything.
def Answers : Program.Env RobotCall PyExc RobotSite := fun
  | _, .writeSyncStatus record, s, r, s' =>
    Ends (SyncStatusSQLiteStore.writeSyncStatus record) s r s'
  | _, .receiveItem call, s, _, s'       => s' = { s with log := s.log ++ [.received call] }
  | _, .mutate m, s, _, s'               => s' = { s with log := s.log ++ [.mutated m] }
  | _, .utcNow, s, r, s'                 => (∃ now, r = .ok now) ∧ s' = s
  | _, .pollReady, s, _, s'              => s' = s
  | _, .close, s, _, s'                  => s' = s
  | _, .sleep, s, _, s'                  => s' = s

-- Other processes run between the calls.
def env : Program.Env RobotCall PyExc RobotSite := fun β op s r s' =>
  ∃ s₁, Others s s₁ ∧ Answers β op s₁ r s'

end RobotSite
end ReceivingApp
