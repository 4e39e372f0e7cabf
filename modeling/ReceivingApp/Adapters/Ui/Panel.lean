import ReceivingApp.Adapters.Ui.SyncPoll
import ReceivingApp.Lib.Timers

open Interaction

namespace ReceivingApp

-- ### Colors

inductive Color
  | idle
  | matched
  | noMatch
  | noMatch2
  | failed
  | alreadyScanned
  | syncStopped
  | syncStopped2
  | waiting
  deriving DecidableEq, Repr

def Color.code : Color → String
  | idle           => "#2C3E50"
  | matched        => "#27AE60"
  | noMatch        => "#E74C3C"
  | noMatch2       => "#C0392B"
  | failed         => "#D35400"
  | alreadyScanned => "#8E44AD"
  | syncStopped    => "#E67E22"
  | syncStopped2   => "#CA6F1E"
  | waiting        => "#1F618D"

-- The code compares the texts of the colors.
theorem Color.code_injective : Function.Injective code := by
  intro a b h
  cases a <;> cases b <;> first | rfl | exact absurd h (by decide)

-- ### State transitions

-- The functions of `scan_states` and `blocking_states` that set the color of the right panel.
inductive Transition
  | setIdle
  | setMidScan
  | setMatchFound
  | setNoMatch
  | setPrintFailed
  | setAlreadyScanned
  | setSyncStopped
  | setPropose
  | setNeedsModel
  deriving DecidableEq, Repr

-- Those that a callback and an event come to call. Neither RESOLVING nor MATCHING has one.
def Callback.transition (ui : Ui) : Callback → Option Transition
  | handleProposeScan barcode => if ui.pendingBarcode = some barcode then some .setMidScan else none
  | handleNeedsModelScan      => none
  | lockPo _ | addPo _ | setIdle | autoClear _ => some .setIdle
  | applyVerdict _ result _ =>
    match result.verdict with
    | .auto       => some .setMidScan
    | .propose    => some .setPropose
    | .needsModel => some .setNeedsModel
  | applyOutcome outcome =>
    match outcome.status with
    | .received       => some .setMatchFound
    | .noMatch        => some .setNoMatch
    | .alreadyScanned => some .setAlreadyScanned
    | .printFailed    => some .setPrintFailed

def Ui.transition (ui : Ui) : UiEvent → Option Transition
  | .dismiss =>
    match ui.state with
    | .noMatch | .printFailed | .alreadyScanned | .propose | .needsModel | .syncStopped =>
      some .setIdle
    | _ => none
  | .reset => some .setIdle
  | .needsModelSubmit model onPo =>
    if strip model = "" then some .setNeedsModel
    else if ui.currentPo = "" then some .setIdle
    else
      match onPo with
      | .ok true => some .setMidScan
      | _        => none
  | .fire i => ui.callbacks[i]? >>= Callback.transition ui
  | _ => none

def Station.transition (s : Station) : StationEvent → Option Transition
  | .ui e => s.ui.transition e
  | .poll (.ok status) =>
    if Ui.shouldAlertSyncStopped status s.ui.dismissedSyncStopAt ∧
        s.ui.state ≠ .syncStopped ∧ s.ui.state ≠ .matching then
      some .setSyncStopped
    else none
  | _ => none

-- ### The right panel

-- A callback of `root.after(400, ...)`.
inductive Flash
  | doFlash (current : Color)
  | doFlashSyncStopped (current : Color)
  deriving DecidableEq, Repr

-- The frames and the labels of the right panel have one background color.
structure Panel where
  station      : Station
  rightBg      : Color
  flashAfterId : Option Nat
  timers       : Timers Flash

namespace Panel

def init (status : Option SyncStatusRecord) : Panel where
  station      := .init status
  rightBg      := .idle
  flashAfterId := none
  timers       := .empty

def setRightBg (color : Color) (p : Panel) : Panel :=
  { p with rightBg := color }

def after (flash : Flash) (p : Panel) : Panel := { p with
  flashAfterId := some p.timers.next
  timers       := p.timers.arm flash
}

def stopFlash (p : Panel) : Panel :=
  match p.flashAfterId with
  | none    => p
  | some id => { p with
    flashAfterId := none
    timers       := p.timers.cancel id
  }

def doFlash (current : Color) (p : Panel) : Panel :=
  if p.station.ui.state ≠ .noMatch then p
  else
    let nxt := if current = .noMatch then .noMatch2 else .noMatch
    (p.setRightBg nxt).after (.doFlash nxt)

def startFlash (p : Panel) : Panel :=
  p.stopFlash.doFlash .noMatch

def doFlashSyncStopped (current : Color) (p : Panel) : Panel :=
  if p.station.ui.state ≠ .syncStopped then p
  else
    let nxt := if current = .syncStopped then .syncStopped2 else .syncStopped
    (p.setRightBg nxt).after (.doFlashSyncStopped nxt)

def startFlashSyncStopped (p : Panel) : Panel :=
  p.stopFlash.doFlashSyncStopped .syncStopped

-- What each of them does to the panel, once it has set the state.
def paint : Transition → Panel → Panel
  | .setIdle           => fun p => p.stopFlash.setRightBg .idle
  | .setMidScan        => fun p => p.setRightBg .idle
  | .setMatchFound     => fun p => p.stopFlash.setRightBg .matched
  | .setNoMatch        => fun p => (p.setRightBg .noMatch).startFlash
  | .setPrintFailed    => fun p => p.setRightBg .failed
  | .setAlreadyScanned => fun p => p.stopFlash.setRightBg .alreadyScanned
  | .setSyncStopped    => fun p => (p.setRightBg .syncStopped).startFlashSyncStopped
  | .setPropose        => fun p => p.stopFlash.setRightBg .waiting
  | .setNeedsModel     => fun p => p.stopFlash.setRightBg .waiting

def invoke : Flash → Panel → Panel
  | .doFlash current            => doFlash current
  | .doFlashSyncStopped current => doFlashSyncStopped current

end Panel

-- Besides what happens to the station, a timer may go off, which is given by its handle.
inductive PanelEvent
  | station (e : StationEvent)
  | timer (id : Nat)

namespace Panel

def next (isDigit : Char → Bool) (p : Panel) : PanelEvent → Option Panel
  | .station e => do
    let station ← p.station.next isDigit e
    return (p.station.transition e).elim id paint { p with station }
  | .timer id => do
    let flash ← p.timers.find? id
    return invoke flash { p with timers := p.timers.cancel id }

def Possible (py : PyStd) (p : Panel) : PanelEvent → Prop
  | .station e => p.station.Possible py e
  | .timer _   => True

def Step (py : PyStd) (isDigit : Char → Bool) (p : Panel) (e : PanelEvent) (p' : Panel) : Prop :=
  p.Possible py e ∧ p.next isDigit e = some p'

end Panel
end ReceivingApp
