import ReceivingApp.Adapters.Ui.ScanStates

namespace ReceivingApp.Ui

-- ### State entry

def setPropose (rawBarcode proposedModel : String) (ui : Ui) : Ui := { ui with
  state          := .propose
  pendingBarcode := some rawBarcode
  proposedModel  := some proposedModel
  resetPlaced    := true
  alarm          := true
}

def setNeedsModel (rawBarcode : String) (ui : Ui) : Ui := { ui with
  state            := .needsModel
  pendingBarcode   := some rawBarcode
  resetPlaced      := false
  alarm            := true
  needsModelPlaced := true
}

-- ### Scan-dispatch handlers

def handleProposeScan (incomingBarcode : String) (ui : Ui) : Ui :=
  if ui.pendingBarcode = some incomingBarcode then
    let model := orEmpty ui.proposedModel
    setMidScan { ui.establish model ui.notes.proposal with modelScan := some model }
  else { ui with alarm := true }

def handleNeedsModelScan (ui : Ui) : Ui :=
  { ui with alarm := true }

-- ### NEEDS_MODEL submit

-- What becomes of `check_model_on_po` is given. Where it raises, the handler ends there.
def onNeedsModelSubmit (model : String) (onPo : Except PyExc Bool) (ui : Ui) : Ui :=
  let ui := { ui with needsModelPlaced := false }
  if strip model = "" then ui.setNeedsModel (orEmpty ui.pendingBarcode)
  else if ui.currentPo = "" then ui.setIdle
  else
    let ui := { ui with mappings := ui.mappings ++ [(orEmpty ui.pendingBarcode, strip model)] }
    match onPo with
    | .error _  => ui
    | .ok true  =>
      setMidScan { ui.establish (strip model) ui.origin with modelScan := some (strip model) }
    | .ok false =>
      start (.runMatch (strip model) "" ui.currentPo) { ui with state := .matching }

end ReceivingApp.Ui
