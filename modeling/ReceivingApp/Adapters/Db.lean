import ReceivingApp.Core.Ports
import ReceivingApp.Lib.Table

open Relational

namespace ReceivingApp

structure Db where
  poInventory     : Table PoRow.inventoryId
  receivingItems  : Table ItemRow.key
  barcodeModelMap : Table MappingRow.key

namespace Db

def empty : Db where
  poInventory     := .empty
  receivingItems  := .empty
  barcodeModelMap := .empty

def getPurchaseOrder (db : Db) (poNumber : String) : List PoRow :=
  db.poInventory.rows.filter (fun row => row.purchaseOrder = poNumber)

def unclaimedForPo (db : Db) (poNumber : String) : List PoRow :=
  db.poInventory.rows.filter (fun row => row.purchaseOrder = poNumber ∧ row.claimedAt = none)

def claimedForPo (db : Db) (poNumber : String) : List PoRow :=
  db.poInventory.rows.filter (fun row => row.purchaseOrder = poNumber ∧ row.claimedAt ≠ none)

-- `WHERE inventory_id = ? AND claimed_at IS NULL`. Nothing is equal to NULL.
def isOpenSlot (inventoryId : Option String) (row : PoRow) : Bool :=
  inventoryId ≠ none ∧ row.inventoryId = inventoryId ∧ row.claimedAt = none

def claim (inventoryId : Option String) (claimedAt : String) (db : Db) : Db := { db with
  poInventory := db.poInventory.modify (isOpenSlot inventoryId)
    (fun row => { row with claimedAt := some claimedAt }) (fun _ => rfl)
}

def saveRecord (now : String) (record : ReceivingRecord) (db : Db) : Db := { db with
  receivingItems := db.receivingItems.upsert (.ofRecord now record) (.overwrite now record)
    (ItemRow.key_overwrite now record)
}

-- One transaction: the claim, which may find no row to update, and the record.
def claimAndSave (inventoryId : Option String) (claimedAt now : String) (record : ReceivingRecord)
    (db : Db) : Db :=
  (db.claim inventoryId claimedAt).saveRecord now record

-- What both raise for a quantity of more than 64 bits, which rolls the transaction back.
def tooLarge : PyExc where
  cls := .overflowError
  msg := "Python int too large to convert to SQLite INTEGER"

def runSaveRecord (now : String) (record : ReceivingRecord) (db : Db) : Except PyExc Db :=
  if record.quantity < 2 ^ 63 then .ok (db.saveRecord now record) else .error tooLarge

def runClaimAndSave (inventoryId : Option String) (claimedAt now : String)
    (record : ReceivingRecord) (db : Db) : Except PyExc Db :=
  if record.quantity < 2 ^ 63 then
    .ok (db.claimAndSave inventoryId claimedAt now record)
  else
    .error tooLarge

def getPending (db : Db) : List ItemRow :=
  db.receivingItems.rows.filter (fun row => !row.emitted)

-- `UPDATE receiving_items SET emitted = 1, updated_at = ? WHERE receiving_id = ?`
def setEmitted (now receivingId : String) (db : Db) : Db := { db with
  receivingItems := db.receivingItems.modify (fun row => row.receivingId = receivingId)
    (.marked now) (ItemRow.key_marked now)
}

def markEmitted (now receivingId : String) (db : Db) : Except PyExc Db :=
  if (db.receivingItems.find receivingId).isSome then
    .ok (db.setEmitted now receivingId)
  else
    .error ⟨.repositoryError,
      s!"mark_emitted failed — receiving_id '{receivingId}' not found;" ++
        " commit the record before marking it emitted"⟩

def wasEmitted (db : Db) (receivingId : String) : Bool :=
  match db.receivingItems.find receivingId with
  | some row => row.emitted
  | none     => false

def findClaimedBySerial (db : Db) (poNumber serial : String) : Option ClaimedRow :=
  db.receivingItems.rows.findSome? (fun ri =>
    if ri.purchaseOrder = poNumber ∧ ri.serial = serial ∧ ri.matchStatus = .received then
      (db.poInventory.find ri.inventoryId).map (ClaimedRow.ofJoin ri)
    else none)

-- `item[key]`
def subscript (key : String) : Option (Option String) → Except PyExc (Option String)
  | none   => .error ⟨.keyError, key⟩
  | some v => .ok v

-- A value for a column that is NOT NULL.
def notNull (op column : String) : Option String → Except PyExc String
  | some s => .ok s
  | none   =>
    .error ⟨.repositoryError, s!"{op} failed — NOT NULL constraint failed: po_inventory.{column}"⟩

def newRow (op now : String) (item : LineItem) : Except PyExc PoRow := do
  let inventoryId ← subscript "inventory_id" item.inventoryId
  let purchaseOrder ← subscript "purchase_order" item.purchaseOrder
  let modelNumber ← subscript "model_number" item.modelNumber
  return {
    inventoryId
    purchaseOrder := ← notNull op "purchase_order" purchaseOrder
    modelNumber   := ← notNull op "model_number" modelNumber
    description   := item.description
    brand         := item.brand
    vendor        := item.vendor
    tags          := item.tags
    createdAt     := ← notNull op "created_at" (item.createdAt.getD (some now))
    claimedAt     := none
  }

-- `DO UPDATE SET` of an insertion into po_inventory, which leaves created_at and claimed_at alone.
def updateRow (new old : PoRow) : PoRow := { new with
  inventoryId := old.inventoryId
  createdAt   := old.createdAt
  claimedAt   := old.claimedAt
}

@[simp]
theorem inventoryId_updateRow (new old : PoRow) :
    (updateRow new old).inventoryId = old.inventoryId :=
  rfl

def insertItem (op now : String) (t : Table PoRow.inventoryId) (item : LineItem) :
    Except PyExc (Table PoRow.inventoryId) := do
  let row ← newRow op now item
  return t.upsert row (updateRow row) (inventoryId_updateRow row)

-- The insertions are one transaction: where one of them fails, the database stays as it was.
def upsertItems (now : String) (items : List LineItem) (db : Db) : Except PyExc Db := do
  return { db with poInventory := ← items.foldlM (insertItem "upsert_items" now) db.poInventory }

def clearPoItems (db : Db) : Db := { db with
  poInventory := .empty
}

def replacePoItems (now : String) (items : List LineItem) (db : Db) : Except PyExc Db := do
  return { db with poInventory := ← items.foldlM (insertItem "replace_po_items" now) .empty }

def countPoItems (db : Db) : Nat :=
  db.poInventory.rows.length

def saveBarcodeMapping (now rawBarcode modelNumber : String) (fuzzyScore : PyFloat)
    (source : String) (db : Db) : Db :=
  let row : MappingRow := ⟨rawBarcode, modelNumber, fuzzyScore, now, source⟩
  { db with barcodeModelMap := db.barcodeModelMap.upsert row row.overwrite row.key_overwrite }

def lookupBarcodeMapping (db : Db) (rawBarcode : String) : Option String :=
  (db.barcodeModelMap.find rawBarcode).map (·.modelNumber)

end Db
end ReceivingApp
