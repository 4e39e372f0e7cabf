import ReceivingApp.Adapters.Board
import ReceivingApp.Adapters.World

namespace ReceivingApp

-- ### Columns

-- The ids of the board's columns. Both programs are configured with the same ones.
structure Columns where
  inventoryId : String
  model       : String
  serial      : String
  status      : String
  deriving DecidableEq, Repr

namespace Columns

def ids (cols : Columns) : List String :=
  [cols.inventoryId, cols.model, cols.serial, cols.status]

theorem nodup_ids_iff {cols : Columns} :
    cols.ids.Nodup ↔
      (cols.inventoryId ≠ cols.model ∧ cols.inventoryId ≠ cols.serial ∧
        cols.inventoryId ≠ cols.status) ∧
      (cols.model ≠ cols.serial ∧ cols.model ≠ cols.status) ∧ cols.serial ≠ cols.status := by
  simp [ids]

end Columns

-- The column values that `_create_item` posts.
def CreatedItem.columnValues (cols : Columns) (item : CreatedItem) : Dict :=
  Dict.update [] [
    (cols.inventoryId, .str item.inventoryId),
    (cols.model,       .str item.model),
    (cols.serial,      .str item.serial),
    (cols.status,      .dict [("label", .str item.statusLabel)])
  ]

-- ### Answers of the board

structure ColumnText where
  id   : String
  text : Option String
  deriving DecidableEq, Repr

-- An item that lacks column values is like one that has none.
structure ApiItem where
  id           : String
  name         : String
  columnValues : List ColumnText
  deriving DecidableEq, Repr

structure Page where
  items  : List ApiItem
  cursor : Option String
  deriving DecidableEq, Repr

namespace BoardApi

-- `col_map.get(col, "")`. Of several texts for a column, `col_map` has the last one.
def colText (item : ApiItem) (col : String) : Option String :=
  match item.columnValues.reverse.find? (·.id = col) with
  | some cv => cv.text
  | none    => some ""

def parseItem (cols : Columns) (item : ApiItem) : ReadyItem where
  itemId      := some item.id
  poNumber    := some item.name
  inventoryId := colText item cols.inventoryId
  model       := colText item cols.model
  serial      := colText item cols.serial

-- The items of all pages, given the answers to the queries in turn. There are none where the
-- answers end while there is a cursor.
def readItems : List Page → Option (List ApiItem)
  | []            => none
  | page :: pages =>
    if orEmpty page.cursor = "" then some page.items
    else (readItems pages).map (page.items ++ ·)

def pollReady (cols : Columns) (pages : List Page) : Option (List ReadyItem) :=
  (readItems pages).map (·.map (parseItem cols))

theorem pollReady_bind (cols : Columns) (pages : List Page) (i : Nat) :
    (pollReady cols pages).bind (·[i]?) =
      ((readItems pages).bind (·[i]?)).map (parseItem cols) := by
  unfold pollReady
  cases readItems pages
  case none => rfl
  case some => simp

end BoardApi

-- The item as the board has it in its API.
def BoardItem.toApi (cols : Columns) (item : BoardItem) : ApiItem where
  id           := item.itemId
  name         := item.name
  columnValues := [
    ⟨cols.inventoryId, item.inventoryId⟩,
    ⟨cols.model,       item.model⟩,
    ⟨cols.serial,      item.serial⟩,
    ⟨cols.status,      some item.status⟩
  ]

end ReceivingApp
