import ReceivingApp.Adapters.Ui.Panel

namespace ReceivingApp

-- ### `_alarm_loop`

-- Where a thread stands in its loop. One that has died is one whose `Beep` has raised.
inductive AlarmThread
  | loop
  | beepHigh
  | checkHigh
  | pauseShort
  | beepLow
  | checkLow
  | pauseLong
  | ended
  | died
  deriving DecidableEq, Repr

namespace AlarmThread

-- The next step of a thread. `isSet` is what `alarm_event.is_set()` returns.
def next (isSet : Bool) : AlarmThread → Option AlarmThread
  | loop       => some (if isSet then ended else beepHigh)
  | beepHigh   => some checkHigh
  | checkHigh  => some (if isSet then ended else pauseShort)
  | pauseShort => some beepLow
  | beepLow    => some checkLow
  | checkLow   => some (if isSet then ended else pauseLong)
  | pauseLong  => some loop
  | ended      => none
  | died       => none

-- The frequency at which the next step beeps.
def tone : AlarmThread → Option Nat
  | beepHigh => some 880
  | beepLow  => some 440
  | _        => none

end AlarmThread

-- ### `start_alarm`

def Transition.startsAlarm : Transition → Bool
  | setNoMatch | setSyncStopped | setPropose | setNeedsModel => true
  | _                                                        => false

-- A scan in PROPOSE that does not confirm, and any scan in NEEDS_MODEL.
def Callback.reminds (ui : Ui) : Callback → Bool
  | handleProposeScan barcode => ui.pendingBarcode ≠ some barcode
  | handleNeedsModelScan      => true
  | _                         => false

def Ui.reminds (ui : Ui) : UiEvent → Bool
  | .fire i => ui.callbacks[i]?.any (Callback.reminds ui)
  | _       => false

-- Whether a step calls `start_alarm`. None calls it twice.
def Station.startsAlarm (s : Station) (e : StationEvent) : Bool :=
  (s.transition e).any Transition.startsAlarm ||
    match e with
    | .ui e => s.ui.reminds e
    | _     => false

-- ### The UI and its alarm threads

-- The threads in the order they were started. Each beep is noted with its thread.
structure AlarmDesk where
  station : Station
  threads : List AlarmThread
  beeps   : List (Nat × Nat)

inductive AlarmEvent
  | station (e : StationEvent)
  | thread (i : Nat)
  | beepRaises (i : Nat)

namespace AlarmDesk

def init (status : Option SyncStatusRecord) : AlarmDesk :=
  ⟨.init status, [], []⟩

-- Before the first call of `start_alarm` the event is not set either, but no thread looks at it.
def isSet (d : AlarmDesk) : Bool :=
  !d.station.ui.alarm

def next (isDigit : Char → Bool) (d : AlarmDesk) : AlarmEvent → Option AlarmDesk
  | .station e => do
    let station ← d.station.next isDigit e
    return { d with
      station
      threads := if d.station.startsAlarm e then d.threads ++ [.loop] else d.threads
    }
  | .thread i => do
    let thread ← d.threads[i]?
    let thread' ← thread.next d.isSet
    return { d with
      threads := d.threads.set i thread'
      beeps   := d.beeps ++ (thread.tone.map (i, ·)).toList
    }
  | .beepRaises i => do
    let thread ← d.threads[i]?
    let _ ← thread.tone
    return { d with threads := d.threads.set i .died }

def Possible (py : PyStd) (d : AlarmDesk) : AlarmEvent → Prop
  | .station e => d.station.Possible py e
  | _          => True

-- On Windows, each call of `start_alarm` starts a thread.
def Step (py : PyStd) (isDigit : Char → Bool) (d : AlarmDesk) (e : AlarmEvent) (d' : AlarmDesk) :
    Prop :=
  d.Possible py e ∧ d.next isDigit e = some d'

end AlarmDesk
end ReceivingApp
