import ReceivingApp.Adapters.Board
import ReceivingApp.Lib.Allocation

open Interaction

namespace ReceivingApp

-- What came of a call of `receive_item`: the outcome, unless it raised, and the inventory_id the
-- portal has bound the serial to.
structure Attempt where
  call    : ReceiveCall
  outcome : Option ReceiveOutcome
  boundTo : Option Int
  deriving DecidableEq, Repr

-- The surroundings of the robot. Of the portal there are the inventory_ids it has not yet received
-- for a PO and a model. Two logs tell what has happened: the attempts, in order, and the item of
-- each mutation of `mark_received` that has raised.
structure RobotWorld where
  board      : Board
  openIds    : String → String → Finset Int
  syncStatus : Option SyncStatusRecord
  attempts   : List Attempt
  unmarked   : List String

namespace RobotWorld

def init (board : Board) (openIds : String → String → Finset Int) : RobotWorld where
  board
  openIds
  syncStatus := none
  attempts   := []
  unmarked   := []

def mutate (m : Mutation) (w : RobotWorld) : RobotWorld :=
  { w with board := w.board.mutate m }

-- A mutation whose response is lost may have been applied.
def mutateFails (m : Mutation) (applied : Bool) (w : RobotWorld) : RobotWorld := { w with
  board    := if applied then w.board.mutate m else w.board
  unmarked := if m.marksReceived then w.unmarked ++ [m.itemId] else w.unmarked
}

-- A receive that ends otherwise than in "received" binds nothing.
def attempt (call : ReceiveCall) (outcome : Option ReceiveOutcome) (w : RobotWorld) : RobotWorld :=
  { w with attempts := w.attempts ++ [⟨call, outcome, none⟩] }

-- A completed receive binds the serial to the lowest inventory_id of the PO and the model that the
-- portal has not yet received.
def receive (call : ReceiveCall) (w : RobotWorld) : RobotWorld := { w with
  attempts := w.attempts ++
    [⟨call, some .received, Allocation.next (w.openIds call.poNumber call.model)⟩]
  openIds po model :=
    if po = call.poNumber ∧ model = call.model then Allocation.rest (w.openIds po model)
    else w.openIds po model
}

def answer (call : ReceiveCall) (outcome : ReceiveOutcome) (w : RobotWorld) : RobotWorld :=
  if outcome = .received then w.receive call else w.attempt call (some outcome)

-- What any call save `receive_item` may raise.
def Raises {α : Type} (r : Except PyExc α) : Prop :=
  ∃ e, r = .error e ∧ e.cls ≠ .executorError

-- How the surroundings may answer.
def Answers : Program.Env RobotCall PyExc RobotWorld := fun
  | _, .pollReady, w, r, w' => w' = w ∧ (r = .ok w.board.readyItems ∨ Raises r)
  | _, .mutate m, w, r, w' =>
    (r = .ok () ∧ w' = w.mutate m) ∨ (Raises r ∧ ∃ applied, w' = w.mutateFails m applied)
  | _, .receiveItem call, w, r, w' =>
    (∃ outcome, r = .ok outcome ∧ w' = w.answer call outcome) ∨
    (∃ e, r = .error e ∧ w' = w.attempt call none)
  | _, .close, w, _, w' => w' = w
  | _, .writeSyncStatus record, w, r, w' =>
    (r = .ok () ∧ w' = { w with syncStatus := some record }) ∨ (Raises r ∧ w' = w)
  | _, .utcNow, w, r, w' => (∃ now, r = .ok now) ∧ w' = w
  | _, .sleep, w, _, w' => ∃ board, w.board.Outside board ∧ w' = { w with board }

-- The surroundings in which the executor answers as given and a mutation raises where `broken` says
-- so, without having been applied.
def play (executor : ReceiveCall → Except PyExc ReceiveOutcome)
    (broken : Mutation → RobotWorld → Bool) : Program.Handler RobotCall PyExc RobotWorld := fun
  | _, .pollReady, w => (.ok w.board.readyItems, w)
  | _, .mutate m, w =>
    if broken m w then (.error ⟨.boardError, "Board API request failed"⟩, w.mutateFails m false)
    else (.ok (), w.mutate m)
  | _, .receiveItem call, w =>
    match executor call with
    | .ok outcome => (.ok outcome, w.answer call outcome)
    | .error e    => (.error e, w.attempt call none)
  | _, .close, w => (.ok (), w)
  | _, .writeSyncStatus record, w => (.ok (), { w with syncStatus := some record })
  | _, .utcNow, w => (.ok sampleTime, w)
  | _, .sleep, w => (.ok (), { w with board := w.board.automate })

end RobotWorld
end ReceivingApp
