import ReceivingApp.Adapters.Ui.ScannerUi

namespace ReceivingApp
namespace Ui

-- What `read_sync_status` comes to is given. Where it raises, that is logged.
def pollSyncStatus (status : Except PyExc (Option SyncStatusRecord)) (ui : Ui) : Ui :=
  match status with
  | .error _   => ui
  | .ok status =>
    if shouldAlertSyncStopped status ui.dismissedSyncStopAt ∧
        ui.state ≠ .syncStopped ∧ ui.state ≠ .matching then
      setSyncStopped { ui with lastSyncStopAt := status.map (·.updatedAt) }
    else ui

-- The stop for which a poll shows the alert.
def alert (status : Except PyExc (Option SyncStatusRecord)) (ui : Ui) : Option String :=
  match status with
  | .error _   => none
  | .ok status =>
    if ui.state ≠ .syncStopped ∧ (ui.pollSyncStatus (.ok status)).state = .syncStopped then
      status.map (·.updatedAt)
    else none

end Ui

-- ### The UI and the status it polls

-- Two things are noted that nothing in the code reads: the stop for which the alert was shown last,
-- and those whose alert has been dismissed.
structure Station where
  ui        : Ui
  status    : Option SyncStatusRecord
  shown     : Option String
  dismissed : List String

-- A poll is given by what it reads.
inductive StationEvent
  | ui (e : UiEvent)
  | writeSyncStatus (record : SyncStatusRecord)
  | poll (status : Except PyExc (Option SyncStatusRecord))

namespace Station

-- What is stored may come from earlier runs.
def init (status : Option SyncStatusRecord) : Station :=
  ⟨.init, status, none, []⟩

-- The stops whose alert the operator dismisses.
def dismisses (s : Station) : UiEvent → List String
  | .dismiss => if s.ui.state = .syncStopped then s.shown.toList else []
  | _        => []

def next (isDigit : Char → Bool) (s : Station) : StationEvent → Option Station
  | .ui e => do
    let ui ← s.ui.next isDigit e
    return { s with
      ui        := ui
      dismissed := s.dismissed ++ s.dismisses e
    }
  | .writeSyncStatus record => some { s with status := some record }
  | .poll status => some { s with
      ui    := s.ui.pollSyncStatus status
      shown := (s.ui.alert status).or s.shown
    }

-- A poll reads what is stored, unless it raises.
def Possible (py : PyStd) (s : Station) : StationEvent → Prop
  | .ui e              => s.ui.Possible py e
  | .writeSyncStatus _ => True
  | .poll (.ok status) => status = s.status
  | .poll (.error e)   => e.isException

-- A step of a `ReceivingUI` that is given a `sync_status_store`, or of those that write to it.
def Step (py : PyStd) (isDigit : Char → Bool) (s : Station) (e : StationEvent) (s' : Station) :
    Prop :=
  s.Possible py e ∧ s.next isDigit e = some s'

end Station
end ReceivingApp
