import ReceivingApp.Core.Python

namespace ReceivingApp

inductive UiState
  | idle
  | resolving
  | midScan
  | matching
  | matchFound
  | noMatch
  | printFailed
  | alreadyScanned
  | syncStopped
  | propose
  | needsModel
  deriving DecidableEq, Repr

-- The kinds of actions with their payloads.
inductive ScanAction
  | dropBusy
  | poSwitch (poNumber : String)
  | poNotLoaded (poNumber : String)
  | turnstile (barcode : String)
  | blockedRealert
  | needPo
  | resolve (barcode : String)
  | midScanDirect (barcode : String)
  | serialMatch (serial : String)
  deriving DecidableEq, Repr

-- `s.upper().startswith("PO:")`. No characters but these have upper cases that begin like that.
def isPoLabel (s : String) : Bool :=
  match s.toList with
  | p :: o :: c :: _ => (p = 'P' ∨ p = 'p') ∧ (o = 'O' ∨ o = 'o') ∧ c = ':'
  | _                => false

def decideScanAction (state : UiState) (cleanedBarcode : String) (hasCurrentPo hasResolver : Bool)
    (activePos : List String) : ScanAction :=
  match state with
  | .matching | .resolving => .dropBusy
  | .propose               => .turnstile cleanedBarcode
  | .needsModel            => .blockedRealert
  | state =>
    if isPoLabel cleanedBarcode then
      let poNum := strip (String.ofList (cleanedBarcode.toList.drop 3))
      if poNum ∈ activePos then .poSwitch poNum else .poNotLoaded poNum
    else
      match state with
      | .idle | .matchFound =>
        if !hasCurrentPo then .needPo
        else if hasResolver then .resolve cleanedBarcode
        else .midScanDirect cleanedBarcode
      | .midScan => .serialMatch cleanedBarcode
      | _        => .dropBusy

-- ### States as strings

def UiState.name : UiState → String
  | idle           => "IDLE"
  | resolving      => "RESOLVING"
  | midScan        => "MID_SCAN"
  | matching       => "MATCHING"
  | matchFound     => "MATCH_FOUND"
  | noMatch        => "NO_MATCH"
  | printFailed    => "PRINT_FAILED"
  | alreadyScanned => "ALREADY_SCANNED"
  | syncStopped    => "SYNC_STOPPED"
  | propose        => "PROPOSE"
  | needsModel     => "NEEDS_MODEL"

-- `decide_scan_action` for any string as a state.
def decideScanActionIn (state cleanedBarcode : String) (hasCurrentPo hasResolver : Bool)
    (activePos : List String) : ScanAction :=
  if state = "MATCHING" ∨ state = "RESOLVING" then .dropBusy
  else if state = "PROPOSE" then .turnstile cleanedBarcode
  else if state = "NEEDS_MODEL" then .blockedRealert
  else if isPoLabel cleanedBarcode then
    let poNum := strip (String.ofList (cleanedBarcode.toList.drop 3))
    if poNum ∈ activePos then .poSwitch poNum else .poNotLoaded poNum
  else if state = "IDLE" ∨ state = "MATCH_FOUND" then
    if !hasCurrentPo then .needPo
    else if hasResolver then .resolve cleanedBarcode
    else .midScanDirect cleanedBarcode
  else if state = "MID_SCAN" then .serialMatch cleanedBarcode
  else .dropBusy

theorem decideScanActionIn_name (state : UiState) :
    decideScanActionIn state.name = decideScanAction state := by
  funext cleanedBarcode hasCurrentPo hasResolver activePos
  cases state <;> rfl

end ReceivingApp
