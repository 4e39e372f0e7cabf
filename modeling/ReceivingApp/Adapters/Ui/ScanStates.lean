import ReceivingApp.Adapters.Ui.Controller
import ReceivingApp.Core.ModelResolution
import ReceivingApp.Core.Robot
import ReceivingApp.Core.ScanDispatch

namespace ReceivingApp

-- ### The state of the UI

-- The purchase order a model is resolved for, and the scan cycle this happens in.
structure Origin where
  po    : String
  cycle : Nat
  deriving DecidableEq, Repr

-- A callback that waits in the queue of `root.after`. An auto-clear carries the cycle it was armed
-- in, and a verdict where it comes from, neither of which the code looks at.
inductive Callback
  | handleProposeScan (incomingBarcode : String)
  | handleNeedsModelScan
  | lockPo (poNumber : String)
  | addPo (po : String)
  | applyVerdict (origin : Origin) (result : ModelScanResult) (rawBarcode : String)
  | applyOutcome (outcome : ScanOutcome)
  | setIdle
  | autoClear (cycle : Nat)

-- A thread that is running. The purchase order of a resolution is that of its origin.
inductive Thread
  | runResolution (origin : Origin) (rawBarcode : String)
  | runMatch (model serial po : String)
  | runPopulate (po : String)
  deriving DecidableEq, Repr

-- What has been seen of a run. Nothing in the code reads it.
structure Notes where
  cycle    : Nat                        -- the scan cycles so far
  model    : Option (String × Origin)   -- the last model that was established for a serial scan
  proposal : Option Origin              -- where the last proposal comes from
  barcode  : Option String              -- the barcode of the last verdict NEEDS_MODEL
  deriving DecidableEq, Repr

-- Of the widgets there are those that can be placed and hidden. The alarm is on from `start_alarm`
-- until `_alarm_event` is set. Of the calls of `save_mapping` there are the first two arguments.
structure Ui where
  state            : UiState
  currentPo        : String
  activePos        : List String
  modelScan        : Option String
  pendingBarcode   : Option String
  proposedModel    : Option String
  alarm            : Bool
  resetPlaced      : Bool
  manualPlaced     : Bool
  needsModelPlaced : Bool
  dismissedSyncStopAt : Option String
  lastSyncStopAt      : Option String
  callbacks : List Callback
  threads   : List Thread
  mappings  : List (String × String)
  notes     : Notes

namespace Ui

def init : Ui where
  state            := .idle
  currentPo        := ""
  activePos        := []
  modelScan        := none
  pendingBarcode   := none
  proposedModel    := none
  alarm            := false
  resetPlaced      := false
  manualPlaced     := false
  needsModelPlaced := false
  dismissedSyncStopAt := none
  lastSyncStopAt      := none
  callbacks := []
  threads   := []
  mappings  := []
  notes     := ⟨0, none, none, none⟩

def after (c : Callback) (ui : Ui) : Ui :=
  { ui with callbacks := ui.callbacks ++ [c] }

def start (t : Thread) (ui : Ui) : Ui :=
  { ui with threads := ui.threads ++ [t] }

def beginCycle (ui : Ui) : Ui :=
  { ui with notes := { ui.notes with cycle := ui.notes.cycle + 1 } }

-- The model is established for the serial scan to come.
def establish (model : String) (origin : Option Origin) (ui : Ui) : Ui :=
  { ui with notes := { ui.notes with model := origin.map (model, ·) } }

-- The resolution or the check of this moment.
def origin (ui : Ui) : Origin :=
  ⟨ui.currentPo, ui.notes.cycle⟩

-- ### State transitions

def hideManualEntry (ui : Ui) : Ui :=
  { ui with manualPlaced := false }

def setIdle (ui : Ui) : Ui := { ui.hideManualEntry with
  state       := .idle
  modelScan   := none
  alarm       := false
  resetPlaced := false
}

def setMidScan (ui : Ui) : Ui := { ui with
  state       := .midScan
  resetPlaced := true
}

def setMatchFound (ui : Ui) : Ui :=
  after (.autoClear ui.notes.cycle) { ui with
    state     := .matchFound
    modelScan := none
    alarm     := false
  }

def setNoMatch (ui : Ui) : Ui := { ui with
  state       := .noMatch
  resetPlaced := true
  alarm       := true
}

def setPrintFailed (ui : Ui) : Ui := { ui with
  state       := .printFailed
  resetPlaced := true
}

def setAlreadyScanned (ui : Ui) : Ui :=
  after (.autoClear ui.notes.cycle) { ui with
    state       := .alreadyScanned
    modelScan   := none
    alarm       := false
    resetPlaced := false
  }

def shouldAlertSyncStopped (status : Option SyncStatusRecord) (dismissedUpdatedAt : Option String) :
    Bool :=
  match status with
  | none        => false
  | some status => status.state = .stopped ∧
    (dismissedUpdatedAt = none ∨ some status.updatedAt ≠ dismissedUpdatedAt)

def setSyncStopped (ui : Ui) : Ui := { ui with
  state       := .syncStopped
  resetPlaced := false
  alarm       := true
}

def dismissSyncStopped (ui : Ui) : Ui :=
  setIdle { ui with dismissedSyncStopAt := ui.lastSyncStopAt }

def dismissNoMatch (ui : Ui) : Ui :=
  match ui.state with
  | .noMatch | .printFailed | .alreadyScanned | .propose | .needsModel =>
    setIdle { ui with needsModelPlaced := false }
  | .syncStopped => ui.dismissSyncStopped
  | _            => ui

-- ### Manual entry

def showManualEntry (ui : Ui) : Ui :=
  if (ui.state = .idle ∨ ui.state = .matchFound) ∧ ui.currentPo ≠ "" then
    { ui with manualPlaced := true }
  else ui

def onManualSubmit (model serial : String) (ui : Ui) : Ui :=
  let ui := ui.hideManualEntry
  if strip model = "" ∨ ui.currentPo = "" then ui
  else
    start (.runMatch (strip model) (strip serial) ui.currentPo) { ui.beginCycle with
      modelScan := some (strip model)
      state     := .matching
    }

end Ui
end ReceivingApp
