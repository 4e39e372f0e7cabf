import ReceivingApp.Core.Matching
import ReceivingApp.Core.Ports

open Interaction

namespace ReceivingApp

-- What one call of `process_scan` reads off the clock, in the order of the readings.
structure Clock (py : PyStd) where
  claimedAt : String
  timestamp : String
  savedAt   : String
  markedAt  : String
  timestamp_iso : py.isIsoFormat timestamp

-- `dict(row)` for a row of po_inventory.
def PoRow.toDict (row : PoRow) : Dict := [
  ("inventory_id",   .ofOption row.inventoryId),
  ("purchase_order", .str row.purchaseOrder),
  ("model_number",   .str row.modelNumber),
  ("description",    .ofOption row.description),
  ("brand",          .ofOption row.brand),
  ("vendor",         .ofOption row.vendor),
  ("tags",           .ofOption row.tags),
  ("created_at",     .str row.createdAt),
  ("claimed_at",     .ofOption row.claimedAt)
]

def zeroSize : Dict := [("w", .int 0), ("d", .int 0), ("h", .int 0)]

def makeReceivingId (py : PyStd) (poNumber : String) (inventoryId : Option String)
    (barcode : String) : String :=
  py.sha256Hex (poNumber ++ formatOpt inventoryId ++ barcode)

def buildRecord (py : PyStd) (clock : Clock py) (matched : Option PoRow) (bestModel : Option String)
    (poNumber : String) (inventoryId : Option String) (receivingId serial scannedModel : String) :
    Except PyExc ReceivingRecord :=
  let fields : Dict := [
    ("truck",            .str ""),
    ("stop",             .str ""),
    ("sales_order",      .str ""),
    ("model_number",     .str scannedModel),
    ("product_category", .str ""),
    ("product_size",     .dict zeroSize),
    ("quantity",         .int 1),
    ("receiving_id",     .str receivingId),
    ("timestamp",        .str clock.timestamp),
    ("match_status",     .str "no_match"),
    ("purchase_order",   .str poNumber),
    ("inventory_id",     .str ""),
    ("serial",           .str serial),
    ("brand",            .str ""),
    ("vendor",           .str ""),
    ("tags",             .str "")
  ]
  match matched, bestModel with
  | some row, some model => fromDict py (fields.update [
      ("truck",            row.toDict.getD "truck" (.str "")),
      ("stop",             row.toDict.getD "stop" (.str "")),
      ("sales_order",      row.toDict.getD "sales_order" (.str "")),
      ("model_number",     .str model),
      ("product_category", row.toDict.getD "product_category" (.str "")),
      ("product_size",     row.toDict.getD "product_size" (.dict zeroSize)),
      ("quantity",         row.toDict.getD "quantity" (.int 1)),
      ("match_status",     .str "received"),
      ("inventory_id",     .ofOption inventoryId),
      ("serial",           .str serial),
      ("brand",            .str (orEmpty row.brand)),
      ("vendor",           .str (orEmpty row.vendor)),
      ("tags",             .str (orEmpty row.tags))
    ])
  | _, _ => fromDict py fields

def buildAlreadyScannedRecord (py : PyStd) (clock : Clock py) (poNumber : String)
    (claimedRow : ClaimedRow) (serial : String) : Except PyExc ReceivingRecord :=
  fromDict py [
    ("truck",            .str claimedRow.truck),
    ("stop",             .str claimedRow.stop),
    ("sales_order",      .str claimedRow.salesOrder),
    ("model_number",     .str claimedRow.modelNumber),
    ("product_category", .str claimedRow.productCategory),
    ("product_size",     .dict claimedRow.productSize),
    ("quantity",         .int claimedRow.quantity),
    ("receiving_id",     .str claimedRow.receivingId),
    ("timestamp",        .str clock.timestamp),
    ("match_status",     .str "already_scanned"),
    ("purchase_order",   .str poNumber),
    ("inventory_id",     .str claimedRow.inventoryId),
    ("serial",           .str serial),
    ("brand",            .str (orEmpty claimedRow.brand)),
    ("vendor",           .str (orEmpty claimedRow.vendor)),
    ("tags",             .str (orEmpty claimedRow.tags))
  ]

-- The model the barcode resolves to among the candidates' models, each of them counted once.
def bestModel (py : PyStd) (barcode : String) (candidates : List PoRow) : Option String :=
  resolveExact py barcode (fromkeys (candidates.map (·.modelNumber)))

-- The first candidate of the resolved model. An empty model is none.
def matchedRow (candidates : List PoRow) : Option String → Option PoRow
  | none       => none
  | some model =>
    if model = "" then none else candidates.find? (fun row => row.modelNumber = model)

-- The serial is only looked up where no candidate matches.
def findDuplicate (matched : Option PoRow) (poNumber serial : String) :
    ServiceM (Option ClaimedRow) :=
  if matched = none ∧ serial ≠ "" then .perform (.findClaimedBySerial poNumber serial)
  else pure none

-- The end of `process_scan`: the record is committed, and goes to the board at most once.
def emitOnce {py : PyStd} (clock : Clock py) (sink : SinkId) (record : ReceivingRecord) :
    ServiceM ReceivingRecord := do
  if ← .perform (.wasEmitted record.receivingId) then
    return record
  if record.matchStatus = .needsAttention then
    .perform (.surfaceAttention sink record)
  else
    .perform (.emit sink record)
  .perform (.markEmitted clock.markedAt record.receivingId)
  return record

def processScan (py : PyStd) (clock : Clock py) (sink : SinkId)
    (barcode poNumber serial : String) : ServiceM ReceivingRecord := do
  let candidates ← .perform (.unclaimedForPo poNumber)
  let bestModel := bestModel py barcode candidates
  let matched := matchedRow candidates bestModel
  match ← findDuplicate matched poNumber serial with
  | some dupRow => .ofExcept (buildAlreadyScannedRecord py clock poNumber dupRow serial)
  | none =>
    let inventoryId := match matched with
      | some row => row.inventoryId
      | none     => some ""
    let receivingId := makeReceivingId py poNumber inventoryId barcode
    let record ← .ofExcept <|
      buildRecord py clock matched bestModel poNumber inventoryId receivingId serial barcode
    match matched with
    | some _ => .perform (.claimAndSave inventoryId clock.claimedAt clock.savedAt record)
    | none   => .perform (.saveRecord clock.savedAt record)
    emitOnce clock sink record

end ReceivingApp
