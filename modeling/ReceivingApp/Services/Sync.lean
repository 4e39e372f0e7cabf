import ReceivingApp.Core.Ports

open Interaction

namespace ReceivingApp

structure SyncResult where
  processed : Nat
  received  : Nat
  noMatch   : Nat
  errors    : Nat
  deriving DecidableEq, Repr

-- `dict(row)` for a row of receiving_items, with its product_size read back from JSON.
def ItemRow.toDict (row : ItemRow) : Dict := [
  ("receiving_id",     .str row.receivingId),
  ("purchase_order",   .str row.purchaseOrder),
  ("inventory_id",     .str row.inventoryId),
  ("model_number",     .str row.modelNumber),
  ("product_category", .str row.productCategory),
  ("truck",            .str row.truck),
  ("stop",             .str row.stop),
  ("sales_order",      .str row.salesOrder),
  ("product_size",     .dict row.productSize),
  ("quantity",         .int row.quantity),
  ("match_status",     .str row.matchStatus.value),
  ("timestamp",        .str row.timestamp),
  ("emitted",          .int (if row.emitted then 1 else 0)),
  ("created_at",       .str row.createdAt),
  ("updated_at",       .ofOption row.updatedAt),
  ("serial",           .str row.serial)
]

def processItem (py : PyStd) (markedAt : String) (sink : SinkId) (item : Dict) :
    ServiceM MatchStatus := do
  let record ← .ofExcept (fromDict py item)
  if record.matchStatus = .needsAttention then
    .perform (.surfaceAttention sink record)
  else
    .perform (.emit sink record)
  .perform (.markEmitted markedAt record.receivingId)
  return record.matchStatus

-- One turn of the loop, which counts an item that fails and goes on.
def syncItem (py : PyStd) (markedAt : String) (sink : SinkId) (result : SyncResult)
    (item : ItemRow) : ServiceM SyncResult :=
  Program.tryCatch
    (do
      if (← processItem py markedAt sink item.toDict) = .received then
        return { result with received := result.received + 1 }
      else
        return { result with noMatch := result.noMatch + 1 })
    (fun e =>
      if e.isException then
        return { result with errors := result.errors + 1 }
      else .throw e)

-- KILL_THRESHOLD
def killThreshold : Rat := 1 / 2

def SyncResult.successRate (result : SyncResult) : Rat :=
  if 0 < result.processed then (result.processed - result.errors) / result.processed else 1

-- The item at each position of the list of pending ones is marked at its own time.
def syncPending (py : PyStd) (markedAt : Nat → String) (sink : SinkId) : ServiceM SyncResult := do
  let pending ← .perform .getPending
  let result ← pending.zipIdx.foldlM
    (fun result (item, i) => syncItem py (markedAt i) sink result item)
    ⟨pending.length, 0, 0, 0⟩
  let rate := result.successRate
  if rate < killThreshold then
    .throw ⟨.syncKillError,
      s!"sync aborted — {py.percentFormat rate} success rate below " ++
        s!"{py.percentFormat killThreshold} threshold; " ++
        s!"{result.errors} of {result.processed} failed"⟩
  return result

end ReceivingApp
