import ReceivingApp.Adapters.Ui.ScanStates
import ReceivingApp.Theorems.Passes

open Interaction Program

namespace ReceivingApp

variable {py : PyStd} {board : ReceivingBoard} {w w' : RobotWorld} {result : ReceiveResult}

namespace Ui

-- The desk shows no alarm for a status, whatever has been dismissed before.
def StaysQuiet (status : Option SyncStatusRecord) : Prop :=
  ∀ dismissedUpdatedAt, shouldAlertSyncStopped status dismissedUpdatedAt = false

-- A status of a robot that has stopped is shown until that very status has been dismissed.
theorem shouldAlert_eq_false_iff {record : SyncStatusRecord} {dismissedUpdatedAt : Option String}
    (h : record.state = .stopped) :
    shouldAlertSyncStopped (some record) dismissedUpdatedAt = false ↔
      dismissedUpdatedAt = some record.updatedAt := by
  rw [shouldAlertSyncStopped, decide_eq_false_iff_not, not_and, not_or, not_not]
  constructor
  case mp  => exact fun hd => (hd h).2.symm
  case mpr => rintro rfl _; exact ⟨nofun, rfl⟩

theorem not_staysQuiet {record : SyncStatusRecord} (h : record.state = .stopped) :
    ¬StaysQuiet (some record) := by
  intro hq
  cases (shouldAlert_eq_false_iff h).mp (hq none)

end Ui

open Ui

-- ### The status of a pass that has returned

theorem writeStatus_wp_answers {state : SyncState} {outcome : LastOutcome} {n : Nat}
    {reason : String} :
    (writeStatus state outcome n reason).wp RobotWorld.Answers (fun _ => True)
      (fun _ w => ∃ now, w.syncStatus = some ⟨state, outcome, n, reason, now⟩)
      (fun _ _ => True) w := by
  refine .bind <| .perform trivial (fun now w₁ _ => ?_) (fun _ _ _ => ⟨trivial, trivial⟩)
  refine ⟨trivial, .perform trivial ?_ (fun _ _ _ => ⟨trivial, trivial⟩)⟩
  rintro _ _ (⟨_, rfl⟩ | ⟨⟨_, ⟨⟩, _⟩, _⟩)
  exact ⟨trivial, now, rfl⟩

-- What a pass writes last is that it has stopped, with success unless an item has failed.
theorem receivePending_syncStatus
    (h : Returns RobotWorld.Answers w (receivePending py board) w' result) :
    ∃ n now, w'.syncStatus = some
      ⟨.stopped, if 0 < result.failed then .failure else .success, n, "", now⟩ := by
  have hp : (receivePending py board).wp RobotWorld.Answers (fun _ => True)
      (fun result w => ∃ n now, w.syncStatus = some
        ⟨.stopped, if 0 < result.failed then .failure else .success, n, "", now⟩)
      (fun _ _ => True) w := by
    -- Neither the poll nor the first status nor the items matter, for the last write comes after all.
    refine .afterAny fun _ _ => .afterAny fun _ _ => .afterAny fun c w => .bind ?_
    apply writeStatus_wp_answers.mono
    case hQ => exact fun _ _ _ h => ⟨trivial, c.consecutiveFailures, h⟩
    case hX => exact fun _ _ _ h => h
  exact hp.returns h

-- Nothing has failed in the pass, and it raises the alarm all the same, for every dismissed time
-- but that of its own last write.
theorem receivePending_alerts
    (h : Returns RobotWorld.Answers w (receivePending py board) w' result)
    (hf : result.failed = 0) :
    ¬StaysQuiet w'.syncStatus ∧
    ∃ record, w'.syncStatus = some record ∧ record.lastOutcome = .success ∧
      ∀ dismissedUpdatedAt, shouldAlertSyncStopped (some record) dismissedUpdatedAt = false ↔
        dismissedUpdatedAt = some record.updatedAt := by
  have ⟨n, now, hs⟩ := receivePending_syncStatus h
  refine ⟨hs ▸ not_staysQuiet rfl, _, hs, ?_, fun _ => shouldAlert_eq_false_iff rfl⟩
  simp [hf]

-- A unit of each of two POs waits for the robot.
def RobotWorld.twoReady : RobotWorld :=
  .init ⟨[⟨"I1", "P", some "101", some "A", some "S1", "READY", .ready⟩,
    ⟨"I2", "Q", some "102", some "B", some "S2", "READY", .ready⟩], by simp [BoardItem.key]⟩
    (fun po _ => if po = "P" then {101} else {102})

-- A pass that receives both of them.
def RobotWorld.cleanPass : Except PyExc ReceiveResult × RobotWorld :=
  (receivePending .ascii boardApi).run (play (fun _ => .ok .received) (fun _ _ => false)) twoReady

theorem returns_cleanPass : Returns RobotWorld.Answers .twoReady (receivePending .ascii boardApi)
    RobotWorld.cleanPass.2 ⟨2, 0, 0, 0⟩ :=
  returns_of_run RobotWorld.answers_play (Prod.ext (by decide +kernel) rfl)

theorem receivePending_alerts_sample : ¬StaysQuiet RobotWorld.cleanPass.2.syncStatus :=
  (receivePending_alerts returns_cleanPass rfl).1

theorem not_forall_staysQuiet :
    ¬∀ (py : PyStd) (board : ReceivingBoard) (w w' : RobotWorld) (result : ReceiveResult),
      Returns RobotWorld.Answers w (receivePending py board) w' result → result.failed = 0 →
      StaysQuiet w'.syncStatus := by
  intro h
  have hq := h _ _ _ _ _ returns_cleanPass rfl none
  have hs : RobotWorld.cleanPass.2.syncStatus =
      some ⟨.stopped, .success, 0, "", sampleTime⟩ := by decide +kernel
  rw [hs] at hq
  cases hq

end ReceivingApp
