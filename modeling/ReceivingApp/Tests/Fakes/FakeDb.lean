import ReceivingApp.Adapters.Db
import ReceivingApp.Lib.OrderedDict

open Relational

namespace ReceivingApp

-- A line item that both repositories take: the keys the code subscripts are there, and they and
-- `created_at`, if there is one, are strings.
structure CatalogItem where
  inventoryId   : String
  purchaseOrder : String
  modelNumber   : String
  description   : Option String := none
  brand         : Option String := none
  vendor        : Option String := none
  tags          : Option String := none
  createdAt     : Option String := none
  deriving DecidableEq

def CatalogItem.lineItem (item : CatalogItem) : LineItem where
  inventoryId   := some (some item.inventoryId)
  purchaseOrder := some (some item.purchaseOrder)
  modelNumber   := some (some item.modelNumber)
  description   := item.description
  brand         := item.brand
  vendor        := item.vendor
  tags          := item.tags
  createdAt     := item.createdAt.map some

-- The dict kept for an item. The item as such has no key `claimed_at`.
structure FakeItem extends CatalogItem where
  claimedAt : Option String := none

-- The dict kept for a record.
structure FakeRecord extends ReceivingRecord where
  emitted   : Bool
  createdAt : String

structure FakeRepository where
  records    : OrderedDict String FakeRecord
  poItems    : OrderedDict String FakeItem
  barcodeMap : OrderedDict String MappingRow

namespace FakeRepository

def empty : FakeRepository where
  records    := .empty
  poItems    := .empty
  barcodeMap := .empty

def getPurchaseOrder (repo : FakeRepository) (poNumber : String) : List FakeItem :=
  repo.poItems.values.filter (fun item => item.purchaseOrder = poNumber)

def unclaimedForPo (repo : FakeRepository) (poNumber : String) : List FakeItem :=
  repo.poItems.values.filter (fun item => item.purchaseOrder = poNumber ∧ item.claimedAt = none)

def claimedForPo (repo : FakeRepository) (poNumber : String) : List FakeItem :=
  repo.poItems.values.filter (fun item => item.purchaseOrder = poNumber ∧ item.claimedAt ≠ none)

def claim (inventoryId claimedAt : String) (repo : FakeRepository) : FakeRepository :=
  match repo.poItems.get? inventoryId with
  | some item =>
    if item.claimedAt = none then
      { repo with poItems := repo.poItems.set inventoryId { item with claimedAt } }
    else repo
  | none => repo

-- The dict a record is stored as, where `existing` is what was stored under its receiving_id.
def store (record : ReceivingRecord) (existing : Option FakeRecord) : FakeRecord := { record with
  emitted   := existing.elim false (·.emitted)
  createdAt := existing.elim record.timestamp (·.createdAt)
}

def saveRecord (record : ReceivingRecord) (repo : FakeRepository) : FakeRepository := { repo with
  records := repo.records.set record.receivingId
    (store record (repo.records.get? record.receivingId))
}

def claimAndSave (inventoryId claimedAt : String) (record : ReceivingRecord)
    (repo : FakeRepository) : FakeRepository :=
  (repo.claim inventoryId claimedAt).saveRecord record

def storeItem (items : OrderedDict String FakeItem) (item : CatalogItem) :
    OrderedDict String FakeItem :=
  items.set item.inventoryId { item with }

def upsertItems (items : List CatalogItem) (repo : FakeRepository) : FakeRepository := { repo with
  poItems := items.foldl storeItem repo.poItems
}

def getPending (repo : FakeRepository) : List FakeRecord :=
  repo.records.values.filter (fun record => !record.emitted)

def markEmitted (receivingId : String) (repo : FakeRepository) : Except PyExc FakeRepository :=
  match repo.records.get? receivingId with
  | some record =>
    .ok { repo with records := repo.records.set receivingId { record with emitted := true } }
  | none =>
    .error ⟨.repositoryError,
      s!"mark_emitted failed — receiving_id '{receivingId}' not found;" ++
        " commit the record before marking it emitted"⟩

def wasEmitted (repo : FakeRepository) (receivingId : String) : Bool :=
  match repo.records.get? receivingId with
  | some record => record.emitted
  | none        => false

-- Model and logistics are those of the record, and the unit need not be in the catalog.
def mergedRow (repo : FakeRepository) (rec : FakeRecord) : ClaimedRow := { rec with
  brand  := some (orEmpty ((repo.poItems.get? rec.inventoryId).bind (·.brand)))
  vendor := some (orEmpty ((repo.poItems.get? rec.inventoryId).bind (·.vendor)))
  tags   := some (orEmpty ((repo.poItems.get? rec.inventoryId).bind (·.tags)))
}

def findClaimedBySerial (repo : FakeRepository) (poNumber serial : String) : Option ClaimedRow :=
  (repo.records.values.find? (fun rec =>
    rec.purchaseOrder = poNumber ∧ rec.serial = serial ∧ rec.matchStatus = .received)).map
      repo.mergedRow

def clearPoItems (repo : FakeRepository) : FakeRepository := { repo with
  poItems := .empty
}

def countPoItems (repo : FakeRepository) : Nat :=
  repo.poItems.items.length

def replacePoItems (items : List CatalogItem) (repo : FakeRepository) : FakeRepository :=
  { repo with poItems := items.foldl storeItem .empty }

def saveBarcodeMapping (now rawBarcode modelNumber : String) (fuzzyScore : PyFloat)
    (source : String) (repo : FakeRepository) : FakeRepository := { repo with
  barcodeMap := repo.barcodeMap.set rawBarcode ⟨rawBarcode, modelNumber, fuzzyScore, now, source⟩
}

def lookupBarcodeMapping (repo : FakeRepository) (rawBarcode : String) : Option String :=
  (repo.barcodeMap.get? rawBarcode).map (·.modelNumber)

end FakeRepository

-- ### Calls

-- The calls of the port `Repository` that change something.
inductive RepositoryCall
  | upsertItems (items : List CatalogItem)
  | saveRecord (record : ReceivingRecord)
  | markEmitted (receivingId : String)
  | clearPoItems
  | replacePoItems (items : List CatalogItem)
  | claim (inventoryId claimedAt : String)
  | claimAndSave (inventoryId claimedAt : String) (record : ReceivingRecord)
  | saveBarcodeMapping (rawBarcode modelNumber : String) (fuzzyScore : PyFloat) (source : String)

def FakeRepository.call (now : String) (repo : FakeRepository) :
    RepositoryCall → Except PyExc FakeRepository
  | .upsertItems items                 => .ok (repo.upsertItems items)
  | .saveRecord record                 => .ok (repo.saveRecord record)
  | .markEmitted id                    => repo.markEmitted id
  | .clearPoItems                      => .ok repo.clearPoItems
  | .replacePoItems items              => .ok (repo.replacePoItems items)
  | .claim id claimedAt                => .ok (repo.claim id claimedAt)
  | .claimAndSave id claimedAt record  => .ok (repo.claimAndSave id claimedAt record)
  | .saveBarcodeMapping raw model x source =>
    .ok (repo.saveBarcodeMapping now raw model x source)

def Db.call (now : String) (db : Db) : RepositoryCall → Except PyExc Db
  | .upsertItems items                 => db.upsertItems now (items.map (·.lineItem))
  | .saveRecord record                 => db.runSaveRecord now record
  | .markEmitted id                    => db.markEmitted now id
  | .clearPoItems                      => .ok db.clearPoItems
  | .replacePoItems items              => db.replacePoItems now (items.map (·.lineItem))
  | .claim id claimedAt                => .ok (db.claim (some id) claimedAt)
  | .claimAndSave id claimedAt record  => db.runClaimAndSave (some id) claimedAt now record
  | .saveBarcodeMapping raw model x source =>
    .ok (db.saveBarcodeMapping now raw model x source)

-- A call that raises leaves the repository as it was, and the caller goes on.
def afterCall {σ : Type} (s : σ) : Except PyExc σ → σ
  | .ok s'   => s'
  | .error _ => s

-- Both repositories after a sequence of calls, each made at its time.
def FakeRepository.run (calls : List (String × RepositoryCall)) : FakeRepository :=
  calls.foldl (fun repo c => afterCall repo (repo.call c.1 c.2)) .empty

def Db.run (calls : List (String × RepositoryCall)) : Db :=
  calls.foldl (fun db c => afterCall db (db.call c.1 c.2)) .empty

end ReceivingApp
