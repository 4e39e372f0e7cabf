import ReceivingApp.Adapters.RobotWorld
import ReceivingApp.Adapters.World
import ReceivingApp.Lib.Refinement

open Interaction

namespace ReceivingApp

-- ### Where responses get lost

-- What a saved record says of its unit.
structure Ticket where
  receivingId   : String
  purchaseOrder : String
  inventoryId   : String
  modelNumber   : String
  serial        : String
  matchStatus   : MatchStatus
  deriving DecidableEq, Repr

def ReceivingRecord.ticket (record : ReceivingRecord) : Ticket := { record with }

def ItemRow.ticket (row : ItemRow) : Ticket := { row with }

-- The world of the scanners with logs that are known to none of them. For each item that has been
-- created there is the adapter and the receiving_id; so there is for those for which the adapter has
-- raised all the same, and for the posts at whose end the adapter knew the receiving_id already. The
-- last log has what was saved.
structure Shop where
  world   : World
  posts   : List (SinkId × String)
  lost    : List (SinkId × String)
  repeats : List (SinkId × String)
  saved   : List Ticket

namespace Shop

def posted (s : Shop) : List String :=
  s.posts.map Prod.snd

-- ### The steps of an adapter

-- A request to create an item.
def create (sink : SinkId) (id : String) (item : CreatedItem) (s : Shop) : Shop := { s with
  world := { s.world with board := s.world.board ++ [item] }
  posts := s.posts ++ [(sink, id)]
}

-- `self._seen.add(receiving_id)`
def remember (sink : SinkId) (id : String) (s : Shop) : Shop :=
  if id ∈ s.world.seen sink then { s with repeats := s.repeats ++ [(sink, id)] }
  else { s with
    world := { s.world with
      seen := Function.update s.world.seen sink (id :: s.world.seen sink)
    }
  }

-- The adapter raises if the request is not answered well, although the item may have been created.
inductive Creates (sink : SinkId) (id : String) (item : CreatedItem) (s : Shop) :
    Except PyExc Unit → Option CreatedItem → Shop → Prop
  | created : Creates sink id item s (.ok ()) (some item) (s.create sink id item)
  | failed (e : PyExc) : Creates sink id item s (.error e) none s
  | lost (e : PyExc) : Creates sink id item s (.error e) (some item)
      { s.create sink id item with lost := s.lost ++ [(sink, id)] }

-- What a sink adapter comes to that is to create an item once for each receiving_id, if nobody else
-- uses it at the same time.
inductive Posts (sink : SinkId) (id : String) (item : CreatedItem) (s : Shop) :
    Except PyExc Unit → Option CreatedItem → Shop → Prop
  | seen : id ∈ s.world.seen sink → Posts sink id item s (.ok ()) none s
  | posted : id ∉ s.world.seen sink →
      Posts sink id item s (.ok ()) (some item) ((s.create sink id item).remember sink id)
  | failed (e : PyExc) : id ∉ s.world.seen sink → Posts sink id item s (.error e) none s
  | lost (e : PyExc) : id ∉ s.world.seen sink → Posts sink id item s (.error e) (some item)
      { s.create sink id item with lost := s.lost ++ [(sink, id)] }

-- What a call of the repository saves.
def saves : ∀ {β : Type}, Port β → Except PyExc β → List Ticket
  | _, .saveRecord _ record, .ok _       => [record.ticket]
  | _, .claimAndSave _ _ _ record, .ok _ => [record.ticket]
  | _, _, _                              => []

-- A call with its answer, and the item that it creates.
def Step : ∀ β, Port β → Shop → Except PyExc β → Option CreatedItem → Shop → Prop
  | _, .emit sink record, s, r, created, s' =>
    Posts sink record.receivingId (emittedItem record) s r created s'
  | _, .surfaceAttention sink record, s, r, created, s' =>
    Posts sink record.receivingId (createItem .attention record "NEEDS ATTENTION") s r created s'
  | _, op, s, r, created, s' => ∃ world, World.env _ op s.world r world ∧ created = none ∧
      s' = { s with world, saved := s.saved ++ saves op r }

end Shop

-- ### Scanners, robots and people

def SinkGroup.onBoard : SinkGroup → BoardGroup
  | ready     => .ready
  | noMatch   => .noMatch
  | attention => .attention

-- The item that the board makes of a request.
def CreatedItem.onBoard (item : CreatedItem) (itemId : String) : BoardItem where
  itemId
  name        := item.itemName
  inventoryId := some item.inventoryId
  model       := some item.model
  serial      := some item.serial
  status      := item.statusLabel
  group       := item.group.onBoard

-- The unit that the texts of an item stand for, as the robot reads them.
structure UnitTexts where
  poNumber    : String
  inventoryId : String
  model       : String
  serial      : String
  deriving DecidableEq, Repr

def CreatedItem.texts (item : CreatedItem) : UnitTexts where
  poNumber    := item.itemName
  inventoryId := item.inventoryId
  model       := item.model
  serial      := item.serial

def BoardItem.texts (item : BoardItem) : UnitTexts where
  poNumber    := item.name
  inventoryId := orEmpty item.inventoryId
  model       := orEmpty item.model
  serial      := orEmpty item.serial

def ReceiveCall.texts (call : ReceiveCall) : UnitTexts :=
  { call with }

def Ticket.texts (t : Ticket) : UnitTexts where
  poNumber    := t.purchaseOrder
  inventoryId := t.inventoryId
  model       := t.modelNumber
  serial      := t.serial

-- What a post of a sink adapter does, one after the other: it looks into `_seen`, sends the request,
-- and adds to `_seen`. The request is logged under the receiving_id.
inductive AdapterCall : Type → Type
  | isSeen (sink : SinkId) (id : String) : AdapterCall Bool
  | create (sink : SinkId) (id : String) (item : CreatedItem) : AdapterCall Unit
  | remember (sink : SinkId) (id : String) : AdapterCall Unit

-- What people do to the board.
inductive PeopleCall : Type → Type
  | edit : PeopleCall Unit

-- The services call the repository themselves, and the board through their adapter.
inductive SiteCall (β : Type)
  | repository (op : Port β) (notSink : op.isSink = false)
  | adapter (op : AdapterCall β)
  | robot (op : RobotCall β)
  | people (op : PeopleCall β)

abbrev SiteM := Program SiteCall PyExc

-- All processes share one database and one board.
@[ext]
structure Site where
  shop  : Shop
  robot : RobotWorld

namespace Site

-- `emit` and `surface_attention` hold no lock, so that others come in between.
def post (sink : SinkId) (id : String) (item : CreatedItem) : SiteM Unit := do
  if ← .perform (.adapter (.isSeen sink id)) then
    return
  .perform (.adapter (.create sink id item))
  .perform (.adapter (.remember sink id))

def deliver : ∀ {β : Type} (op : Port β), op.isSink → SiteM β
  | _, .emit sink record, _ => post sink record.receivingId (emittedItem record)
  | _, .surfaceAttention sink record, _ =>
    post sink record.receivingId (createItem .attention record "NEEDS ATTENTION")

-- What a service does where it makes a call.
def calls {β : Type} (op : Port β) : SiteM β :=
  match h : op.isSink with
  | false => .perform (.repository op h)
  | true  => deliver op h

theorem calls_of_not_isSink {β : Type} {op : Port β} (h : op.isSink = false) :
    calls op = .perform (.repository op h) := by
  cases op
  case emit | surfaceAttention => cases h
  all_goals rfl

def service {α : Type} (p : ServiceM α) : SiteM Unit :=
  p.refine calls >>= fun _ => .pure ()

def robotJob {α : Type} (p : RobotM α) : SiteM Unit :=
  p.lift .robot >>= fun _ => .pure ()

def people : Nat → SiteM Unit
  | 0     => .pure ()
  | n + 1 => do
    .perform (.people .edit)
    people n

-- The board after it has created an item, which gets an item_id of its own.
def Lists (created : Option CreatedItem) (board board' : Board) : Prop :=
  match created with
  | none      => board' = board
  | some item => ∃ itemId, (∀ other ∈ board.rows, other.itemId ≠ itemId) ∧
      board'.rows = board.rows ++ [item.onBoard itemId]

-- People and the automation may do anything to the board, but what they put or leave in the READY
-- group has the texts of an item that was created for it.
def Edited (s s' : Site) : Prop :=
  ∃ board : Board, s' = { s with robot := { s.robot with board } } ∧
    ∀ item ∈ board.rows, item.group = .ready →
      ∃ created ∈ s.shop.world.board, created.group = .ready ∧ item.texts = created.texts

-- What comes of a step of an adapter, with the item that it creates.
def Adapts : ∀ β, AdapterCall β → Shop → Except PyExc β → Option CreatedItem → Shop → Prop
  | _, .isSeen sink id, s, r, created, s' =>
    r = .ok (decide (id ∈ s.world.seen sink)) ∧ created = none ∧ s' = s
  | _, .create sink id item, s, r, created, s' => s.Creates sink id item r created s'
  | _, .remember sink id, s, r, created, s' =>
    r = .ok () ∧ created = none ∧ s' = s.remember sink id

def Answers : Program.Env SiteCall PyExc Site := fun
  | _, .repository op _, s, r, s' =>
    Shop.Step _ op s.shop r none s'.shop ∧ s'.robot = s.robot
  | _, .adapter op, s, r, s' => ∃ created board, Adapts _ op s.shop r created s'.shop ∧
      Lists created s.robot.board board ∧ s'.robot = { s.robot with board }
  | _, .robot .sleep, s, _, s' => Edited s s'
  | _, .robot op, s, r, s' =>
    RobotWorld.Answers _ op s.robot r s'.robot ∧ s'.shop = s.shop
  | _, .people .edit, s, _, s' => Edited s s'

end Site
end ReceivingApp
