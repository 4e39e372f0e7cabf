import ReceivingApp.Adapters.BoardApi
import ReceivingApp.Adapters.Factories
import ReceivingApp.Core.Json

namespace ReceivingApp

-- ### Requests and responses

inductive Query
  | readyFirst
  | readyNext
  deriving DecidableEq, Repr

structure Request where
  query : Query
  vars  : List (String × Json)

-- What comes back from a request: nothing good, a body that is no JSON, or a JSON value.
inductive Response
  | failed (detail : String)
  | notJson (detail : String)
  | json (data : Json)

-- What f-strings write, which only ever ends up in messages: `f"{v}"` and `f"{exc!r}"`.
structure Formats where
  value : Json → String
  exc   : PyExc → String

def BoardApiAdapter.columns (board : BoardApiAdapter) : Columns where
  inventoryId := board.inventoryIdCol
  model       := board.modelCol
  serial      := board.serialCol
  status      := board.statusCol

namespace BoardPolling

-- `try: … except <classes> as exc: raise BoardError(…) from exc`
def orBoardError {α : Type} (fmt : Formats) (classes : List ExcClass) (text : String) :
    Except PyExc α → Except PyExc α
  | .ok a      => .ok a
  | .error exc =>
    if exc.cls ∈ classes then .error ⟨.boardError, text ++ fmt.exc exc⟩ else .error exc

-- `_post`, given what the request is answered with.
def post (fmt : Formats) : Response → Except PyExc Json
  | .failed detail => .error ⟨.boardError,
      "Board API request failed — check base URL, connectivity, and token. Detail: " ++ detail⟩
  | .notJson detail => .error ⟨.boardError,
      "Board API response parse failed — unexpected body. Detail: " ++ detail⟩
  | .json data => do
    if ← data.contains "errors" then
      let errors ← data.getItem "errors"
      throw ⟨.boardError,
        "Board API returned GraphQL errors — check board ID and token scopes. Errors: " ++
          fmt.value errors⟩
    return data

-- ### Items

-- The pairs of `col_map`, in their order.
def columnTexts (cvs : List Json) : Except PyExc (List (Json × Json)) :=
  cvs.mapM fun cv => do
    let id ← cv.getItem "id"
    let text ← cv.getItem "text"
    id.checkHash
    return (id, text)

-- `col_map.get(col, "")`. Of several texts for a column, `col_map` has the last one.
def textOf (colMap : List (Json × Json)) (col : String) : Json :=
  match colMap.reverse.find? (·.1.isStr col) with
  | some entry => entry.2
  | none       => .str ""

def parseItem (cols : Columns) (item : Json) : Except PyExc (List (String × Json)) := do
  let columnValues ← item.get "column_values"
  let colMap ← columnTexts (← (columnValues.getD (.list [])).iter)
  return [
    ("item_id",      ← item.getItem "id"),
    ("po_number",    ← item.getItem "name"),
    ("inventory_id", textOf colMap cols.inventoryId),
    ("model",        textOf colMap cols.model),
    ("serial",       textOf colMap cols.serial)
  ]

-- ### Pages

-- The items and the cursor of a page.
def readPage (page : Json) : Except PyExc (List Json × Json) := do
  let items ← (← page.getItem "items").iter
  let cursor ← page.get "cursor"
  return (items, cursor.getD .null)

def readFirst (fmt : Formats) (data : Json) : Except PyExc (List Json × Json) :=
  orBoardError fmt [.keyError, .indexError, .typeError] "Board poll_ready response parse failed: "
    do
      let board ← (← (← data.getItem "data").getItem "boards").getFirst
      let group ← (← board.getItem "groups").getFirst
      readPage (← group.getItem "items_page")

def readNext (fmt : Formats) (data : Json) : Except PyExc (List Json × Json) :=
  orBoardError fmt [.keyError, .typeError] "Board poll_ready pagination failed: " do
    readPage (← (← data.getItem "data").getItem "next_items_page")

-- ### The loop

-- What has happened so far: the requests that were made, and the result once there is one. Without
-- a result, the last request has not been answered.
structure Polled where
  requests : List Request
  result   : Option (Except PyExc (List (List (String × Json))))

def Polled.after (request : Request) (p : Polled) : Polled := { p with
  requests := request :: p.requests
}

def nextRequest (cursor : Json) : Request :=
  ⟨.readyNext, [("cursor", cursor)]⟩

-- The loop, with the answers that the requests will get.
def loop (fmt : Formats) (cols : Columns) : List Response → List Json → Json → Polled
  | responses, items, cursor =>
    if cursor.truthy then
      match responses with
      | []                    => ⟨[nextRequest cursor], none⟩
      | response :: responses =>
        match post fmt response >>= readNext fmt with
        | .error e             => ⟨[nextRequest cursor], some (.error e)⟩
        | .ok (more, cursor') =>
          (loop fmt cols responses (items ++ more) cursor').after (nextRequest cursor)
    else
      ⟨[], some (items.mapM (parseItem cols))⟩

def firstRequest (board : BoardApiAdapter) : Request :=
  ⟨.readyFirst, [("boardId", .str board.boardId), ("groupId", .str board.readyGroupId)]⟩

def pollReady (fmt : Formats) (board : BoardApiAdapter) (responses : List Response) : Polled :=
  match responses with
  | []                    => ⟨[firstRequest board], none⟩
  | response :: responses =>
    match post fmt response >>= readFirst fmt with
    | .error e           => ⟨[firstRequest board], some (.error e)⟩
    | .ok (items, cursor) =>
      (loop fmt board.columns responses items cursor).after (firstRequest board)

end BoardPolling
end ReceivingApp
