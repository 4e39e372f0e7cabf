import ReceivingApp.Core.Robot
import ReceivingApp.Lib.Table

open Interaction Relational

namespace ReceivingApp

-- ### The adapter

namespace BoardApi

-- The status is set first and the item moved second.
def markReceived (itemId : String) : RobotM Unit := do
  .perform (.mutate (.setStatus itemId "RECEIVED"))
  .perform (.mutate (.move itemId .received))

def markNoMatch (itemId : String) : RobotM Unit :=
  .perform (.mutate (.move itemId .noMatch))

def markNeedsAttention (itemId : String) : RobotM Unit :=
  .perform (.mutate (.setStatus itemId "NEEDS_ATTENTION"))

end BoardApi

def boardApi : ReceivingBoard where
  pollReady          := .perform .pollReady
  markReceived       := BoardApi.markReceived
  markNoMatch        := BoardApi.markNoMatch
  markNeedsAttention := BoardApi.markNeedsAttention

-- ### The board

-- The text of a column is `none` where the board has null for it.
structure BoardItem where
  itemId      : String
  name        : String
  inventoryId : Option String
  model       : Option String
  serial      : Option String
  status      : String
  group       : BoardGroup
  deriving DecidableEq, Repr

namespace BoardItem

def key (item : BoardItem) : Option String :=
  some item.itemId

-- `_parse_item`
def parse (item : BoardItem) : ReadyItem where
  itemId      := some item.itemId
  poNumber    := some item.name
  inventoryId := item.inventoryId
  model       := item.model
  serial      := item.serial

-- What a mutation does to the item it names.
def mutate (item : BoardItem) : Mutation → BoardItem
  | .setStatus _ label => { item with status := label }
  | .move _ group      => { item with group }

@[simp]
theorem itemId_mutate (item : BoardItem) (m : Mutation) : (item.mutate m).itemId = item.itemId := by
  cases m <;> rfl

theorem key_mutate (m : Mutation) (item : BoardItem) : (item.mutate m).key = item.key := by
  cases m <;> rfl

-- The automation of the board takes an item that needs attention out of the READY group.
def routed (item : BoardItem) : BoardItem :=
  if item.group = .ready ∧ item.status = "NEEDS_ATTENTION" then { item with group := .attention }
  else item

theorem key_routed (item : BoardItem) : item.routed.key = item.key := by
  unfold routed
  split <;> rfl

end BoardItem

def Mutation.itemId : Mutation → String
  | setStatus itemId _ => itemId
  | move itemId _      => itemId

-- The mutations `mark_received` is made of.
def Mutation.marksReceived : Mutation → Bool
  | setStatus _ label => label = "RECEIVED"
  | move _ group      => group = .received

abbrev Board := Table BoardItem.key

namespace Board

def mutate (m : Mutation) (board : Board) : Board :=
  board.modify (fun item => item.itemId = m.itemId) (·.mutate m) (BoardItem.key_mutate m)

def automate (board : Board) : Board :=
  board.modify (fun _ => true) BoardItem.routed BoardItem.key_routed

def readyItems (board : Board) : List ReadyItem :=
  (board.rows.filter (fun item => item.group = .ready)).map BoardItem.parse

-- An item is on the board but not in the READY group.
def IsOut (board : Board) (itemId : String) : Prop :=
  ∃ item ∈ board.rows, item.itemId = itemId ∧ item.group ≠ .ready

-- What may become of the board between two passes. Items may be added and changed but not deleted.
-- The automation has taken those that need attention out of READY, and no other one comes back.
structure Outside (board board' : Board) : Prop where
  kept  : ∀ item ∈ board.rows, ∃ item' ∈ board'.rows, item'.itemId = item.itemId
  ready : ∀ item ∈ board.rows, ∀ item' ∈ board'.rows, item'.itemId = item.itemId →
    item'.group = .ready → item.group = .ready ∧ item.status ≠ "NEEDS_ATTENTION"

end Board
end ReceivingApp
