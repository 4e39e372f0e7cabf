import ReceivingApp.Adapters.Db
import Mathlib.Logic.Function.Basic

open Interaction

namespace ReceivingApp

-- ### The sink adapter

inductive SinkGroup
  | ready
  | noMatch
  | attention
  deriving DecidableEq, Repr

-- An item of the board, as `_create_item` posts it.
structure CreatedItem where
  group       : SinkGroup
  itemName    : String
  inventoryId : String
  model       : String
  serial      : String
  statusLabel : String
  deriving DecidableEq, Repr

def createItem (group : SinkGroup) (record : ReceivingRecord) (statusLabel : String) :
    CreatedItem where
  group       := group
  itemName    := record.purchaseOrder
  inventoryId := record.inventoryId
  model       := record.modelNumber
  serial      := record.serial
  statusLabel := statusLabel

-- The item `emit` creates for a record.
def emittedItem (record : ReceivingRecord) : CreatedItem :=
  if record.matchStatus = .received then createItem .ready record "READY"
  else createItem .noMatch record "NO MATCH"

-- ### The state all processes share

-- `seen` holds the in-process set `_seen` of every sink adapter.
structure World where
  db    : Db
  board : List CreatedItem
  seen  : SinkId → List String

namespace World

-- An adapter posts an item once for each receiving_id.
def post (sink : SinkId) (receivingId : String) (item : CreatedItem) (w : World) : World :=
  if receivingId ∈ w.seen sink then w else { w with
    board := w.board ++ [item]
    seen  := Function.update w.seen sink (receivingId :: w.seen sink)
  }

def emit (sink : SinkId) (record : ReceivingRecord) (w : World) : World :=
  w.post sink record.receivingId (emittedItem record)

def surfaceAttention (sink : SinkId) (record : ReceivingRecord) (w : World) : World :=
  w.post sink record.receivingId (createItem .attention record "NEEDS ATTENTION")

def query {β : Type} (w : World) (b : β) : Except PyExc β × World :=
  (.ok b, w)

def write (w : World) (db : Db) : Except PyExc Unit × World :=
  (.ok (), { w with db })

-- A transaction that raises leaves the database as it was.
def transact (w : World) : Except PyExc Db → Except PyExc Unit × World
  | .ok db   => w.write db
  | .error e => (.error e, w)

def handle : Program.Handler Port PyExc World := fun
  | _, .getPurchaseOrder po, w             => w.query (w.db.getPurchaseOrder po)
  | _, .upsertItems now items, w           => w.transact (w.db.upsertItems now items)
  | _, .saveRecord now record, w           => w.write (w.db.saveRecord now record)
  | _, .getPending, w                      => w.query w.db.getPending
  | _, .markEmitted now id, w              => w.transact (w.db.markEmitted now id)
  | _, .wasEmitted id, w                   => w.query (w.db.wasEmitted id)
  | _, .clearPoItems, w                    => w.write w.db.clearPoItems
  | _, .countPoItems, w                    => w.query w.db.countPoItems
  | _, .replacePoItems now items, w        => w.transact (w.db.replacePoItems now items)
  | _, .unclaimedForPo po, w               => w.query (w.db.unclaimedForPo po)
  | _, .claimedForPo po, w                 => w.query (w.db.claimedForPo po)
  | _, .findClaimedBySerial po serial, w   => w.query (w.db.findClaimedBySerial po serial)
  | _, .claim id claimedAt, w              => w.write (w.db.claim id claimedAt)
  | _, .claimAndSave id claimedAt now r, w => w.write (w.db.claimAndSave id claimedAt now r)
  | _, .saveBarcodeMapping now raw m x src, w =>
    w.write (w.db.saveBarcodeMapping now raw m x src)
  | _, .lookupBarcodeMapping raw, w        => w.query (w.db.lookupBarcodeMapping raw)
  | _, .emit sink record, w                => (.ok (), w.emit sink record)
  | _, .surfaceAttention sink record, w    => (.ok (), w.surfaceAttention sink record)

-- A repository call may fail with a RepositoryError and a post to the board with a SinkError. An
-- adapter that has seen the receiving_id does not post.
inductive Fault : ∀ β, Port β → World → PyExc → Prop
  | repository {β : Type} {op : Port β} {w : World} (msg : String) :
      ¬op.isSink → Fault β op w ⟨.repositoryError, msg⟩
  | emit {sink : SinkId} {record : ReceivingRecord} {w : World} (msg : String) :
      record.receivingId ∉ w.seen sink → Fault Unit (.emit sink record) w ⟨.sinkError, msg⟩
  | surfaceAttention {sink : SinkId} {record : ReceivingRecord} {w : World} (msg : String) :
      record.receivingId ∉ w.seen sink →
      Fault Unit (.surfaceAttention sink record) w ⟨.sinkError, msg⟩

def env : Program.Env Port PyExc World :=
  Program.Faulty handle Fault

@[simp]
theorem post_db {sink : SinkId} {receivingId : String} {item : CreatedItem} {w : World} :
    (w.post sink receivingId item).db = w.db := by
  simp only [post]
  split <;> rfl

@[simp]
theorem emit_db {sink : SinkId} {r : ReceivingRecord} {w : World} : (w.emit sink r).db = w.db :=
  post_db

@[simp]
theorem surfaceAttention_db {sink : SinkId} {r : ReceivingRecord} {w : World} :
    (w.surfaceAttention sink r).db = w.db :=
  post_db

theorem env_ok_iff {β : Type} {op : Port β} {w w' : World} {b : β} :
    env β op w (.ok b) w' ↔ handle β op w = (.ok b, w') :=
  Program.faulty_ok_iff

-- A call that raises has changed nothing.
theorem env_error {β : Type} {op : Port β} {w w' : World} {e : PyExc}
    (h : env β op w (.error e) w') : w' = w := by
  have ht (x : Except PyExc Db) (he : (w.transact x).1 = .error e) : (w.transact x).2 = w := by
    cases x
    case ok    => cases he
    case error => rfl
  generalize hr : Except.error e = r at h
  cases h
  case fault => rfl
  case done =>
    cases op
    case upsertItems | markEmitted | replacePoItems => exact ht _ hr.symm
    all_goals cases hr

end World
end ReceivingApp
