import ReceivingApp.Core.Robot
import Mathlib.Data.List.Sort
import Mathlib.Data.Prod.Lex

open Interaction

namespace ReceivingApp

-- CONSECUTIVE_FAILURE_KILL
def consecutiveFailureKill : Nat := 2

structure ReceiveResult where
  received : Nat
  noMatch  : Nat
  failed   : Nat
  skipped  : Nat
  deriving DecidableEq, Repr

-- The local variables of `receive_pending` that its loop updates.
structure Counters extends ReceiveResult where
  consecutiveFailures : Nat
  deriving DecidableEq, Repr

namespace ReadyItem

def isValid (item : ReadyItem) : Bool :=
  [item.itemId, item.poNumber, item.inventoryId, item.model, item.serial].all (orEmpty · ≠ "")

-- The call of `receive_item` for a valid item.
def call (item : ReadyItem) : ReceiveCall where
  itemId      := orEmpty item.itemId
  poNumber    := orEmpty item.poNumber
  inventoryId := orEmpty item.inventoryId
  model       := orEmpty item.model
  serial      := orEmpty item.serial

-- `int(raw)` raises for what is no number, also for `None`.
def idSortKey (py : PyStd) (item : ReadyItem) : ℕ ×ₗ ℤ :=
  match item.inventoryId.bind py.parseInt with
  | some n => toLex (0, n)
  | none   => toLex (1, 0)

end ReadyItem

-- `sorted` is stable.
def sortById (py : PyStd) (items : List ReadyItem) : List ReadyItem :=
  items.insertionSort (fun a b => a.idSortKey py ≤ b.idSortKey py)

def writeStatus (state : SyncState) (lastOutcome : LastOutcome) (consecutiveFailures : Nat)
    (stoppedReason : String) : RobotM Unit := do
  let updatedAt ← .perform .utcNow
  .perform (.writeSyncStatus
    { state, lastOutcome, consecutiveFailures, stoppedReason, updatedAt })

-- What happens to an item for which the executor has returned an outcome.
def routeOutcome (board : ReceivingBoard) (c : Counters) (itemId : String) :
    ReceiveOutcome → RobotM Counters
  | .received => do
    board.markReceived itemId
    return { c with received := c.received + 1 }
  | _ => do
    board.markNoMatch itemId
    return { c with noMatch := c.noMatch + 1 }

-- What happens to an item for which the executor has raised an ExecutorError.
def escalate (board : ReceivingBoard) (c : Counters) (itemId : String) : RobotM Counters := do
  board.markNeedsAttention itemId
  let failures := c.consecutiveFailures + 1
  if consecutiveFailureKill ≤ failures then
    writeStatus .stopped .kill failures
      (s!"{failures} consecutive executor failures — " ++
        "resolve automation issue before retrying")
    .throw ⟨.syncKillError,
      s!"receive aborted — {failures} consecutive executor failures; " ++
        "items set to needs_attention; resolve automation issue before retrying"⟩
  writeStatus .running .failure failures ""
  return { c with failed := c.failed + 1, consecutiveFailures := failures }

-- One turn of the loop. The status store raises no ExecutorError, so the handler finds the counters
-- as they were before the item.
def receiveNext (board : ReceivingBoard) (c : Counters) (item : ReadyItem) : RobotM Counters :=
  if item.isValid then
    Program.tryCatch
      (do
        let outcome ← .perform (.receiveItem item.call)
        let c ← routeOutcome board c item.call.itemId outcome
        writeStatus .running .success 0 ""
        return { c with consecutiveFailures := 0 })
      (fun e => if e.cls = .executorError then escalate board c item.call.itemId else .throw e)
  else do
    if orEmpty item.itemId ≠ "" then
      board.markNoMatch item.call.itemId
    return { c with skipped := c.skipped + 1 }

def receivePending (py : PyStd) (board : ReceivingBoard) : RobotM ReceiveResult := do
  let items ← board.pollReady
  writeStatus .running .none 0 ""
  let c ← (sortById py items).foldlM (receiveNext board) ⟨⟨0, 0, 0, 0⟩, 0⟩
  writeStatus .stopped (if 0 < c.failed then .failure else .success) c.consecutiveFailures ""
  return c.toReceiveResult

end ReceivingApp
