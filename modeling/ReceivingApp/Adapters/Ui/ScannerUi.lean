import ReceivingApp.Adapters.Desk
import ReceivingApp.Adapters.Ui.BlockingStates
import ReceivingApp.Services.ModelResolution

open Interaction

namespace ReceivingApp
namespace Ui

variable (isDigit : Char → Bool)

def lockPo (poNumber : String) (ui : Ui) : Ui :=
  setIdle { ui with
    currentPo := poNumber
    modelScan := none
  }

-- A resolver is wired, so that there is no MID_SCAN_DIRECT.
def onScan (barcode : String) (ui : Ui) : Ui :=
  match decideScanAction ui.state (strip barcode) (ui.currentPo ≠ "") true ui.activePos with
  | .dropBusy | .poNotLoaded _ | .needPo | .midScanDirect _ => ui
  | .turnstile barcode => ui.after (.handleProposeScan barcode)
  | .blockedRealert    => ui.after .handleNeedsModelScan
  | .poSwitch poNumber => ui.after (.lockPo poNumber)
  | .resolve cleaned   =>
    let ui := ui.beginCycle
    start (.runResolution ui.origin cleaned) { ui with
      pendingBarcode := some cleaned
      state          := .resolving
    }
  | .serialMatch serial =>
    start (.runMatch (orEmpty ui.modelScan) serial ui.currentPo) { ui with state := .matching }

def applyVerdict (origin : Origin) (result : ModelScanResult) (rawBarcode : String) (ui : Ui) :
    Ui :=
  match result.verdict with
  | .auto =>
    setMidScan { ui.establish (orEmpty result.model) origin with modelScan := result.model }
  | .propose =>
    setPropose rawBarcode (orEmpty result.model) { ui with
      notes := { ui.notes with proposal := origin }
    }
  | .needsModel =>
    setNeedsModel rawBarcode { ui with notes := { ui.notes with barcode := rawBarcode } }

def applyOutcome (outcome : ScanOutcome) (ui : Ui) : Ui :=
  match outcome.status with
  | .received       => ui.setMatchFound
  | .noMatch        => ui.setNoMatch
  | .alreadyScanned => ui.setAlreadyScanned
  | .printFailed    => ui.setPrintFailed

def addPo (po : String) (ui : Ui) : Ui :=
  setIdle { ui with
    activePos := if po ∈ ui.activePos then ui.activePos else ui.activePos ++ [po]
    currentPo := po
  }

-- The purchase orders in the text of the field, unless one of them is not numeric.
def poList (text : String) : List String :=
  let pos := (((strip text).toList.splitOn ',').map fun p => strip (String.ofList p)).filter
    (· ≠ "")
  if pos.all (fun p => p.toList.all isDigit) then pos else []

def onPoSubmit (text : String) (ui : Ui) : Ui :=
  (poList isDigit text).foldl (fun ui po => ui.start (.runPopulate po)) ui

-- The queue calls a callback.
def invoke : Callback → Ui → Ui
  | .handleProposeScan barcode      => handleProposeScan barcode
  | .handleNeedsModelScan           => handleNeedsModelScan
  | .lockPo poNumber                => lockPo poNumber
  | .addPo po                       => addPo po
  | .applyVerdict origin result raw => applyVerdict origin result raw
  | .applyOutcome outcome           => applyOutcome outcome
  | .setIdle                        => setIdle
  | .autoClear _                    => setIdle

end Ui

-- ### Runs

-- What the operator does and what the event loop and the threads come to do. A callback and a
-- thread are given by their places among those that wait, and those that run.
inductive UiEvent
  | scan (barcode : String)
  | dismiss
  | reset
  | poSubmit (text : String)
  | showManual
  | cancelManual
  | manualSubmit (model serial : String)
  | needsModelSubmit (model : String) (onPo : Except PyExc Bool)
  | fire (i : Nat)
  | resolved (i : Nat) (result : Except PyExc ModelScanResult)
  | matched (i : Nat) (result : Except PyExc ScanOutcome)
  | populated (i : Nat) (result : Except PyExc Unit)

namespace Ui

-- What a thread queues at its end.
def callback : Thread → UiEvent → Option (List Callback)
  | .runResolution origin raw, .resolved _ (.ok result)  => some [.applyVerdict origin result raw]
  | .runResolution .., .resolved _ (.error _)            => some [.setIdle]
  | .runMatch .., .matched _ (.ok outcome)               => some [.applyOutcome outcome]
  | .runMatch .., .matched _ (.error _)                  => some [.setIdle]
  | .runPopulate po, .populated _ (.ok _)                => some [.addPo po]
  | .runPopulate _, .populated _ (.error _)              => some []
  | _, _                                                 => none

def finish (i : Nat) (e : UiEvent) (ui : Ui) : Option Ui := do
  let thread ← ui.threads[i]?
  let cs ← callback thread e
  return { ui with
    threads   := ui.threads.eraseIdx i
    callbacks := ui.callbacks ++ cs
  }

-- What an event makes of the UI. A button or a form can only be used where it is placed.
def next (isDigit : Char → Bool) (ui : Ui) (e : UiEvent) : Option Ui :=
  match e with
  | .scan barcode    => ui.onScan barcode
  | .dismiss         => ui.dismissNoMatch
  | .poSubmit text   => ui.onPoSubmit isDigit text
  | .reset           => if ui.resetPlaced then ui.setIdle else none
  | .showManual      => if ui.manualPlaced then none else ui.showManualEntry
  | .cancelManual    => if ui.manualPlaced then ui.hideManualEntry else none
  | .manualSubmit model serial =>
    if ui.manualPlaced then ui.onManualSubmit model serial else none
  | .needsModelSubmit model onPo =>
    if ui.needsModelPlaced then ui.onNeedsModelSubmit model onPo else none
  | .fire i => do
    let c ← ui.callbacks[i]?
    return invoke c { ui with callbacks := ui.callbacks.eraseIdx i }
  | .resolved i _ | .matched i _ | .populated i _ => ui.finish i e

-- Between two calls of a thread, other threads and processes may have changed the world.
def Shared {Op : Type → Type} {σ : Type} (E : Program.Env Op PyExc σ) : Program.Env Op PyExc σ :=
  fun β op _ r s' => ∃ s, E β op s r s'

-- The threads and the handlers come to what the services come to. A scanner delivers no blank text.
def Possible (py : PyStd) (ui : Ui) : UiEvent → Prop
  | .scan barcode => isBlank barcode = false
  | .needsModelSubmit model onPo => ∃ w w',
    Program.Steps (Shared World.env) w (checkModelOnPo py (strip model) ui.currentPo) w'
      (.ofExcept onPo)
  | .resolved i result => ∀ origin raw, ui.threads[i]? = some (.runResolution origin raw) →
    ∃ w w', Program.Steps (Shared World.env) w (resolveModelBarcode py raw origin.po) w'
      (.ofExcept result)
  | .matched i result => ∀ model serial po, ui.threads[i]? = some (.runMatch model serial po) →
    ∃ (clock : Clock py) (sink : SinkId) (d d' : Desk),
      Program.Steps (Shared (Desk.Answers (·.isException))) d
        (handleScan model serial po (process py clock sink)) d' (.ofExcept result)
  | _ => True

-- A step of `ReceivingUI` as `scanner_runner` wires it.
def Step (py : PyStd) (isDigit : Char → Bool) (ui : Ui) (e : UiEvent) (ui' : Ui) : Prop :=
  ui.Possible py e ∧ ui.next isDigit e = some ui'

end Ui
end ReceivingApp
