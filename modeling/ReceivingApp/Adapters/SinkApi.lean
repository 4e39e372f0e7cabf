import ReceivingApp.Adapters.BoardPolling

open Interaction

namespace ReceivingApp

-- ### Requests

-- The variables of the mutation `create_item`. The column values are sent as JSON.
structure CreateRequest where
  boardId      : String
  groupId      : String
  itemName     : String
  columnValues : Dict

namespace ResultSinkAdapter

def columns (sink : ResultSinkAdapter) : Columns where
  inventoryId := sink.inventoryIdCol
  model       := sink.modelCol
  serial      := sink.serialCol
  status      := sink.statusCol

def groupId (sink : ResultSinkAdapter) : SinkGroup → String
  | .ready     => sink.readyGroupId
  | .noMatch   => sink.noMatchGroupId
  | .attention => sink.attentionGroupId

def createRequest (sink : ResultSinkAdapter) (item : CreatedItem) : CreateRequest where
  boardId      := sink.boardId
  groupId      := sink.groupId item.group
  itemName     := item.itemName
  columnValues := item.columnValues sink.columns

end ResultSinkAdapter

-- What a method of the adapter does beside computing: it looks into `_seen`, adds to it, and sends a
-- request.
inductive SinkCall : Type → Type
  | isSeen (receivingId : String) : SinkCall Bool
  | remember (receivingId : String) : SinkCall Unit
  | request (req : CreateRequest) : SinkCall Response

abbrev SinkM := Program SinkCall PyExc

-- ### The adapter

namespace SinkApi

-- `_post`, given what the request is answered with.
def post (fmt : Formats) : Response → Except PyExc Json
  | .failed detail => .error ⟨.sinkError,
      "Result sink API request failed — check base URL, connectivity, and token. Detail: " ++
        detail⟩
  | .notJson detail => .error ⟨.sinkError,
      "Result sink response parse failed — unexpected body. Detail: " ++ detail⟩
  | .json data => do
    if ← data.contains "errors" then
      let errors ← data.getItem "errors"
      throw ⟨.sinkError,
        "Result sink returned GraphQL errors — check board ID and token scopes. Errors: " ++
          fmt.value errors⟩
    return data

variable (fmt : Formats) (sink : ResultSinkAdapter)

def createItem (group : SinkGroup) (record : ReceivingRecord) (statusLabel : String) :
    SinkM Unit := do
  let response ← .perform
    (.request (sink.createRequest (ReceivingApp.createItem group record statusLabel)))
  let _ ← .ofExcept (post fmt response)

def emit (record : ReceivingRecord) : SinkM Unit := do
  if ← .perform (.isSeen record.receivingId) then
    return
  if record.matchStatus = .received then
    createItem fmt sink .ready record "READY"
  else
    createItem fmt sink .noMatch record "NO MATCH"
  .perform (.remember record.receivingId)

def surfaceAttention (record : ReceivingRecord) : SinkM Unit := do
  if ← .perform (.isSeen record.receivingId) then
    return
  createItem fmt sink .attention record "NEEDS ATTENTION"
  .perform (.remember record.receivingId)

end SinkApi

-- ### The API

-- The requests that the board has carried out, and the set `_seen` of an adapter.
structure SinkSession where
  created : List CreateRequest
  seen    : List String

namespace SinkSession

-- A request that is answered well has been carried out. One that is not, or is not answered at all,
-- has been carried out or not.
def Answers (fmt : Formats) : Program.Env SinkCall PyExc SinkSession := fun
  | _, .isSeen id, s, r, s'   => r = .ok (decide (id ∈ s.seen)) ∧ s' = s
  | _, .remember id, s, r, s' => r = .ok () ∧ s' = { s with seen := id :: s.seen }
  | _, .request req, s, r, s' =>
    (s' = s ∧ ∀ response data, r = .ok response → SinkApi.post fmt response ≠ .ok data) ∨
    s' = { s with created := s.created ++ [req] }

end SinkSession

-- ### NullSink

namespace NullSink

-- The entries of the log.
def emitEntry (record : ReceivingRecord) : Dict := [
  ("event",          .str "null_sink_emit"),
  ("receiving_id",   .str record.receivingId),
  ("match_status",   .str record.matchStatus.value),
  ("purchase_order", .str record.purchaseOrder),
  ("model_number",   .str record.modelNumber),
  ("serial",         .str record.serial)
]

def attentionEntry (record : ReceivingRecord) : Dict := [
  ("event",          .str "null_sink_surface_attention"),
  ("receiving_id",   .str record.receivingId),
  ("match_status",   .str record.matchStatus.value),
  ("purchase_order", .str record.purchaseOrder)
]

end NullSink

-- The state of the processes that run with a NullSink each.
structure NullWorld where
  db   : Db
  log  : List Dict
  seen : SinkId → List String

namespace NullWorld

def note (sink : SinkId) (receivingId : String) (entry : Dict) (w : NullWorld) : NullWorld :=
  if receivingId ∈ w.seen sink then w else { w with
    log  := w.log ++ [entry]
    seen := Function.update w.seen sink (receivingId :: w.seen sink)
  }

def emit (sink : SinkId) (record : ReceivingRecord) (w : NullWorld) : NullWorld :=
  w.note sink record.receivingId (NullSink.emitEntry record)

def surfaceAttention (sink : SinkId) (record : ReceivingRecord) (w : NullWorld) : NullWorld :=
  w.note sink record.receivingId (NullSink.attentionEntry record)

end NullWorld
end ReceivingApp
