import ReceivingApp.Core.Python
import ReceivingApp.Lib.Program

open Interaction

namespace ReceivingApp

-- ### Records

inductive SyncState
  | running
  | stopped
  deriving DecidableEq, Repr

inductive LastOutcome
  | none
  | success
  | failure
  | kill
  deriving DecidableEq, Repr

structure SyncStatusRecord where
  state               : SyncState
  lastOutcome         : LastOutcome
  consecutiveFailures : Nat
  stoppedReason       : String
  updatedAt           : String
  deriving DecidableEq, Repr

inductive ReceiveOutcome
  | received
  | notFound
  | finalizeError
  deriving DecidableEq, Repr

-- An item as `poll_ready` returns it. A key that is missing and one that is `None` are the same to
-- the code, which only uses `item.get(key)`.
structure ReadyItem where
  itemId      : Option String
  poNumber    : Option String
  inventoryId : Option String
  model       : Option String
  serial      : Option String
  deriving DecidableEq, Repr

-- A call of `receive_item`. The board item it is made for is not among its arguments. It stands
-- here to tell whose receive it is.
structure ReceiveCall where
  itemId      : String
  poNumber    : String
  inventoryId : String
  model       : String
  serial      : String
  deriving DecidableEq, Repr

-- ### Ports

inductive BoardGroup
  | ready
  | received
  | noMatch
  | attention
  deriving DecidableEq, Repr

-- The mutations of the board's API: `change_column_value` of the status column and
-- `move_item_to_group`.
inductive Mutation
  | setStatus (itemId label : String)
  | move (itemId : String) (group : BoardGroup)
  deriving DecidableEq, Repr

inductive RobotCall : Type → Type
  | pollReady : RobotCall (List ReadyItem)
  | mutate (m : Mutation) : RobotCall Unit
  | receiveItem (call : ReceiveCall) : RobotCall ReceiveOutcome
  | close : RobotCall Unit
  | writeSyncStatus (record : SyncStatusRecord) : RobotCall Unit
  | utcNow : RobotCall String
  | sleep : RobotCall Unit

abbrev RobotM := Program RobotCall PyExc

structure ReceivingBoard where
  pollReady          : RobotM (List ReadyItem)
  markReceived       : String → RobotM Unit
  markNoMatch        : String → RobotM Unit
  markNeedsAttention : String → RobotM Unit

end ReceivingApp
