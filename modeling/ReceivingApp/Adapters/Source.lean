import ReceivingApp.Core.Ports
import ReceivingApp.Lib.OrderedDict

open Relational

namespace ReceivingApp

-- The members of `_REQUIRED_CSV_COLUMNS`, sorted.
def requiredCsvColumns : List String := ["Inventory Id", "Model", "PO #"]

-- A row as `csv.DictReader` reads it. Names that it has no cell for get `None`. The cells that it
-- has no name for are kept under a key that nothing reads.
abbrev CsvRow := OrderedDict String (Option String)

namespace CsvRow

def read (fieldnames cells : List String) : CsvRow :=
  let row := (fieldnames.zip cells).foldl (fun row field => row.set field.1 (some field.2)) .empty
  (fieldnames.drop cells.length).foldl (fun row name => row.set name none) row

-- `row.get(column, "") or ""`
def cell (row : CsvRow) (column : String) : String :=
  orEmpty ((row.get? column).getD (some ""))

end CsvRow

-- `s or None`
def orNone (s : String) : Option String :=
  if s = "" then none else some s

-- The line item of a row. A row with a blank inventory_id is skipped.
def parseRow (row : CsvRow) : Option LineItem :=
  let invId := strip (row.cell "Inventory Id")
  if invId = "" then none
  else
    let category := row.cell "Category"
    some {
      inventoryId   := some (some invId)
      purchaseOrder := some (some (strip (row.cell "PO #")))
      modelNumber   := some (some (strip (row.cell "Model")))
      description   := orNone (strip (if category = "" then row.cell "Product Group" else category))
      brand         := orNone (strip (row.cell "Brand"))
      vendor        := none
      tags          := orNone (strip (row.cell "Tags"))
    }

-- The parser on the cells that `csv.reader` yields. The first row names the fields, and of the
-- others the reader skips the empty ones.
def parseOnOrderCsv (table : List (List String)) : Except PyExc (List LineItem) :=
  let fieldnames := table.headD []
  let missing := requiredCsvColumns.filter (fun column => column ∉ fieldnames)
  if missing ≠ [] then
    .error ⟨.sourceError, s!"CSV is missing required columns: " ++
      "[" ++ ", ".intercalate (missing.map (fun column => s!"'{column}'")) ++ "]"⟩
  else
    let rows := (table.drop 1).filter (fun cells => cells ≠ [])
    .ok (rows.filterMap (fun cells => parseRow (.read fieldnames cells)))

end ReceivingApp
