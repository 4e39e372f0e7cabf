import ReceivingApp.Core.Schema
import ReceivingApp.Lib.Program

open Interaction

namespace ReceivingApp

-- ### Rows

-- A row of po_inventory. `inventory_id` is a primary key of type TEXT, which SQLite lets be NULL.
structure PoRow where
  inventoryId   : Option String
  purchaseOrder : String
  modelNumber   : String
  description   : Option String
  brand         : Option String
  vendor        : Option String
  tags          : Option String
  createdAt     : String
  claimedAt     : Option String
  deriving DecidableEq

-- A row of receiving_items. Its columns are those of a record, without the catalog fields brand,
-- vendor and tags.
structure ItemRow where
  receivingId     : String
  purchaseOrder   : String
  inventoryId     : String
  modelNumber     : String
  productCategory : String
  truck           : String
  stop            : String
  salesOrder      : String
  productSize     : Dict
  quantity        : Int
  matchStatus     : MatchStatus
  timestamp       : String
  serial          : String
  emitted         : Bool
  createdAt       : String
  updatedAt       : Option String
  receivingId_not_blank : isBlank receivingId = false
  quantity_pos          : 1 ≤ quantity
  productSize_ok        : sizeOk productSize

namespace ItemRow

def key (row : ItemRow) : Option String :=
  some row.receivingId

-- The row a record is inserted as.
def ofRecord (now : String) (record : ReceivingRecord) : ItemRow := { record with
  emitted   := false
  createdAt := now
  updatedAt := none
}

-- The row a record leaves where its receiving_id is already stored.
def overwrite (now : String) (record : ReceivingRecord) (row : ItemRow) : ItemRow := { record with
  receivingId           := row.receivingId
  receivingId_not_blank := row.receivingId_not_blank
  emitted   := row.emitted
  createdAt := row.createdAt
  updatedAt := some now
}

-- The row after it has been marked as emitted.
def marked (now : String) (row : ItemRow) : ItemRow := { row with
  emitted   := true
  updatedAt := some now
}

@[simp]
theorem key_overwrite (now : String) (record : ReceivingRecord) (row : ItemRow) :
    (row.overwrite now record).key = row.key :=
  rfl

@[simp]
theorem key_marked (now : String) (row : ItemRow) : (row.marked now).key = row.key :=
  rfl

end ItemRow

structure MappingRow where
  rawBarcode  : String
  modelNumber : String
  fuzzyScore  : PyFloat
  confirmedAt : String
  source      : String
  deriving DecidableEq

namespace MappingRow

def key (row : MappingRow) : Option String :=
  some row.rawBarcode

def overwrite (new old : MappingRow) : MappingRow := { new with
  rawBarcode := old.rawBarcode
}

@[simp]
theorem key_overwrite (new old : MappingRow) : (new.overwrite old).key = old.key :=
  rfl

end MappingRow

-- The row `find_claimed_by_serial` joins from both tables.
structure ClaimedRow where
  inventoryId     : String
  modelNumber     : String
  brand           : Option String
  vendor          : Option String
  tags            : Option String
  receivingId     : String
  truck           : String
  stop            : String
  salesOrder      : String
  productCategory : String
  productSize     : Dict
  quantity        : Int
  receivingId_not_blank : isBlank receivingId = false
  quantity_pos          : 1 ≤ quantity
  productSize_ok        : sizeOk productSize

def ClaimedRow.ofJoin (ri : ItemRow) (pi : PoRow) : ClaimedRow := { ri with
  modelNumber := pi.modelNumber
  brand       := pi.brand
  vendor      := pi.vendor
  tags        := pi.tags
}

-- A line item as the source adapters deliver it. Where the code subscripts the dict, the outer
-- option says whether the key is there at all.
structure LineItem where
  inventoryId   : Option (Option String)
  purchaseOrder : Option (Option String)
  modelNumber   : Option (Option String)
  description   : Option String := none
  brand         : Option String := none
  vendor        : Option String := none
  tags          : Option String := none
  createdAt     : Option (Option String) := none
  deriving DecidableEq

-- ### Calls

-- A sink adapter lives in one process. Two processes, or one before and after a restart, have two.
abbrev SinkId := Nat

-- What the services call: the ports `Repository` and `ResultSink`. The parameter `now` is the time
-- the adapter reads off the clock during the call.
inductive Port : Type → Type
  | getPurchaseOrder (poNumber : String) : Port (List PoRow)
  | upsertItems (now : String) (items : List LineItem) : Port Unit
  | saveRecord (now : String) (record : ReceivingRecord) : Port Unit
  | getPending : Port (List ItemRow)
  | markEmitted (now receivingId : String) : Port Unit
  | wasEmitted (receivingId : String) : Port Bool
  | clearPoItems : Port Unit
  | countPoItems : Port Nat
  | replacePoItems (now : String) (items : List LineItem) : Port Unit
  | unclaimedForPo (poNumber : String) : Port (List PoRow)
  | claimedForPo (poNumber : String) : Port (List PoRow)
  | findClaimedBySerial (poNumber serial : String) : Port (Option ClaimedRow)
  | claim (inventoryId : Option String) (claimedAt : String) : Port Unit
  | claimAndSave (inventoryId : Option String) (claimedAt now : String)
      (record : ReceivingRecord) : Port Unit
  | saveBarcodeMapping (now rawBarcode modelNumber : String) (fuzzyScore : PyFloat)
      (source : String) : Port Unit
  | lookupBarcodeMapping (rawBarcode : String) : Port (Option String)
  | emit (sink : SinkId) (record : ReceivingRecord) : Port Unit
  | surfaceAttention (sink : SinkId) (record : ReceivingRecord) : Port Unit

-- The calls of the `ResultSink` port.
def Port.isSink : ∀ {β : Type}, Port β → Bool
  | _, emit ..             => true
  | _, surfaceAttention .. => true
  | _, _                   => false

abbrev ServiceM := Program Port PyExc

inductive PrinterCall : Type → Type
  | printLabel (record : ReceivingRecord) : PrinterCall Unit
  | printPoLabel (poNumber : String) : PrinterCall Unit

-- What the scanner application calls: the ports of the services, and the port `Printer`.
abbrev ScannerCall (β : Type) := Port β ⊕ PrinterCall β

abbrev ScannerM := Program ScannerCall PyExc

-- A service as a part of the application.
def service {α : Type} (p : ServiceM α) : ScannerM α :=
  p.lift .inl

def printer {α : Type} (op : PrinterCall α) : ScannerM α :=
  .perform (.inr op)

end ReceivingApp
