import ReceivingApp.Services.Receive

open Interaction

namespace ReceivingApp

inductive ScanStatus
  | received
  | noMatch
  | alreadyScanned
  | printFailed
  deriving DecidableEq, Repr

@[ext]
structure ScanOutcome where
  status : ScanStatus
  record : ReceivingRecord

def handleScan (barcode serial poNumber : String)
    (process : String → String → String → ScannerM ReceivingRecord) : ScannerM ScanOutcome := do
  let record ← process barcode serial poNumber
  if record.matchStatus = .alreadyScanned then
    return ⟨.alreadyScanned, record⟩
  if record.matchStatus ≠ .received then
    return ⟨.noMatch, record⟩
  Program.tryCatch
    (do
      printer (.printLabel record)
      return ⟨.received, record⟩)
    (fun e => if e.cls = .printerError then return ⟨.printFailed, record⟩ else .throw e)

-- What `scanner_runner` injects for `process`.
def process (py : PyStd) (clock : Clock py) (sink : SinkId) (barcode serial po : String) :
    ScannerM ReceivingRecord :=
  service (processScan py clock sink barcode po serial)

end ReceivingApp
