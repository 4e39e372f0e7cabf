import ReceivingApp.Adapters.Ui.Panel
import ReceivingApp.Theorems.SyncStops

open Interaction

namespace ReceivingApp

-- ### States and transitions

def Transition.state : Transition → UiState
  | setIdle           => .idle
  | setMidScan        => .midScan
  | setMatchFound     => .matchFound
  | setNoMatch        => .noMatch
  | setPrintFailed    => .printFailed
  | setAlreadyScanned => .alreadyScanned
  | setSyncStopped    => .syncStopped
  | setPropose        => .propose
  | setNeedsModel     => .needsModel

-- What becomes of the state in a step with the given transition. Without one, it only changes to a
-- state in which the UI waits for a thread.
def Changes (state state' : UiState) : Option Transition → Prop
  | some t => state' = t.state
  | none   => state' = state ∨ state' = .matching ∨
    (state' = .resolving ∧ (state = .idle ∨ state = .matchFound))

namespace Ui

variable {isDigit : Char → Bool} {ui ui' : Ui} {e : UiEvent}

theorem changes_invoke {i : Nat} {c : Callback} :
    Changes ui.state (invoke c (ui.dequeue i)).state (c.transition ui) := by
  cases c
  case lockPo | addPo | setIdle | autoClear => rfl
  case handleNeedsModelScan => exact .inl rfl
  case handleProposeScan barcode =>
    by_cases hb : ui.pendingBarcode = some barcode
    all_goals simp only [invoke, handleProposeScan, dequeue, Callback.transition, hb]
    case pos => rfl
    case neg => exact .inl rfl
  case applyVerdict result _ =>
    simp only [invoke, applyVerdict, Callback.transition]
    cases result.verdict <;> rfl
  case applyOutcome outcome =>
    simp only [invoke, applyOutcome, Callback.transition]
    cases outcome.status <;> rfl

theorem changes_dismissNoMatch :
    Changes ui.state ui.dismissNoMatch.state (ui.transition .dismiss) := by
  cases hs : ui.state
  all_goals simp only [dismissNoMatch, transition, hs]
  case noMatch | printFailed | alreadyScanned | propose | needsModel | syncStopped => rfl
  all_goals exact .inl rfl

theorem changes_onNeedsModelSubmit {model : String} {onPo : Except PyExc Bool} :
    Changes ui.state (ui.onNeedsModelSubmit model onPo).state
      (ui.transition (.needsModelSubmit model onPo)) := by
  simp only [onNeedsModelSubmit, transition]
  split
  case isTrue => rfl
  case isFalse =>
    split
    case isTrue => rfl
    case isFalse =>
      cases onPo
      case error => exact .inl rfl
      case ok b =>
        cases b
        case true  => rfl
        case false => exact .inr (.inl rfl)

theorem changes_next (h : ui.next isDigit e = some ui') :
    Changes ui.state ui'.state (ui.transition e) := by
  cases e
  case fire =>
    obtain ⟨c, hc, rfl⟩ := next_fire_eq_some_iff.mp h
    simp only [transition, hc]
    exact changes_invoke
  case dismiss =>
    cases h
    exact changes_dismissNoMatch
  case needsModelSubmit =>
    have ⟨_, h⟩ := Option.ite_none_right_eq_some.mp h
    cases h
    exact changes_onNeedsModelSubmit
  case reset =>
    have ⟨_, h⟩ := Option.ite_none_right_eq_some.mp h
    cases h
    rfl
  all_goals cases moves_of_next h
  case scan.resolve hs _ => exact .inr (.inr ⟨rfl, hs⟩)
  case scan.serialMatch | manualSubmit.manualSubmit => exact .inr (.inl rfl)
  all_goals exact .inl rfl

end Ui

namespace Station

theorem changes_next {isDigit : Char → Bool} {s s' : Station} {e : StationEvent}
    (h : s.next isDigit e = some s') : Changes s.ui.state s'.ui.state (s.transition e) := by
  cases e
  case ui =>
    obtain ⟨ui', hui, rfl⟩ := next_ui_eq_some_iff.mp h
    exact Ui.changes_next hui
  case writeSyncStatus =>
    cases h
    exact .inl rfl
  case poll status =>
    cases next_poll_eq_some_iff.mp h
    cases status
    case error => exact .inl rfl
    case ok status =>
      simp only [Ui.pollSyncStatus, transition]
      split
      case isTrue  => rfl
      case isFalse => exact .inl rfl

end Station

-- ### Colors and states

-- The colors a state is shown in. A serial may be typed in over any color.
def palette : UiState → List Color
  | .idle | .midScan         => [.idle]
  | .resolving               => [.idle, .matched]
  | .matching                => [.idle, .matched, .noMatch, .noMatch2, .failed, .alreadyScanned,
    .syncStopped, .syncStopped2, .waiting]
  | .matchFound              => [.matched]
  | .noMatch                 => [.noMatch, .noMatch2]
  | .printFailed             => [.failed]
  | .alreadyScanned          => [.alreadyScanned]
  | .syncStopped             => [.syncStopped, .syncStopped2]
  | .propose | .needsModel   => [.waiting]

-- The timer that a state and its color keep waiting.
def flashOf : UiState → Color → Option Flash
  | .noMatch, color     => some (.doFlash color)
  | .syncStopped, color => some (.doFlashSyncStopped color)
  | _, _                => none

-- The state in which the callback of a timer does not end at once.
def Flash.state : Flash → UiState
  | doFlash _            => .noMatch
  | doFlashSyncStopped _ => .syncStopped

theorem state_of_flashOf {state : UiState} {color : Color} {flash : Flash}
    (h : flashOf state color = some flash) : state = flash.state := by
  unfold flashOf at h
  split at h <;> cases h <;> rfl

theorem Changes.mem_palette {state state' : UiState} {color : Color}
    (h : Changes state state' none) (hc : color ∈ palette state) : color ∈ palette state' := by
  rcases h with rfl | rfl | ⟨rfl, rfl | rfl⟩
  · exact hc
  · cases color <;> decide
  · simp_all [palette]
  · simp_all [palette]

theorem Changes.flashOf_eq {state state' : UiState} {color : Color} {flash : Flash}
    (h : Changes state state' none) (hf : flashOf state' color = some flash) :
    flashOf state color = some flash := by
  rcases h with rfl | rfl | ⟨rfl, _⟩
  · exact hf
  · cases hf
  · cases hf

namespace Panel

variable {py : PyStd} {isDigit : Char → Bool} {p p' : Panel} {color : Color} {flash : Flash}

def state (p : Panel) : UiState :=
  p.station.ui.state

-- No timer is waiting but the one whose handle is kept, the panel has a color of its state, and if
-- it flashes, the timer that is waiting knows that color.
structure Truthful (p : Panel) : Prop where
  only    : p.timers.Only p.flashAfterId
  color   : p.rightBg ∈ palette p.state
  flashes : ∀ flash, flashOf p.state p.rightBg = some flash →
    ∃ id, (id, flash) ∈ p.timers.waiting

-- ### Flashing

-- The handle that is kept is that of the only timer, so that nothing is waiting any more.
theorem waiting_stopFlash (h : p.timers.Only p.flashAfterId) :
    p.stopFlash.timers.waiting = [] := by
  unfold stopFlash
  split
  case h_1 hn    => exact Timers.only_none_iff.mp (hn ▸ h)
  case h_2 id hs => exact (hs ▸ h : p.timers.Only (some id)).cancel_self

theorem state_stopFlash : p.stopFlash.state = p.state := by
  unfold stopFlash
  split <;> rfl

theorem only_of_waiting {ts : Timers Flash} {h : Option Nat} (hw : ts.waiting = []) : ts.Only h :=
  fun t ht => by simp [hw] at ht

-- A panel that does not flash and has stopped to, or shall stop by itself.
theorem truthful_setRightBg (ho : p.timers.Only p.flashAfterId) (hc : color ∈ palette p.state)
    (hf : flashOf p.state color = none) : (p.setRightBg color).Truthful where
  only    := ho
  color   := hc
  flashes := fun _ h => nomatch hf.symm.trans h

theorem truthful_after (hw : p.timers.waiting = []) (hc : p.rightBg ∈ palette p.state)
    (hf : flashOf p.state p.rightBg = some flash) : (p.after flash).Truthful where
  only  := Timers.only_arm hw
  color := hc
  flashes flash' h := by
    cases hf.symm.trans h
    exact ⟨p.timers.next, by simp [after, Timers.waiting_arm hw]⟩

theorem truthful_doFlash (hs : p.state = .noMatch) (hw : p.timers.waiting = []) :
    (p.doFlash color).Truthful := by
  have hd : p.doFlash color = _ := if_neg (not_not.mpr hs)
  rw [hd]
  refine truthful_after hw ?_ (congrArg (flashOf · _) hs)
  show _ ∈ palette p.state
  rw [hs]
  by_cases hc : color = .noMatch <;> simp [setRightBg, palette, hc]

theorem truthful_doFlashSyncStopped (hs : p.state = .syncStopped) (hw : p.timers.waiting = []) :
    (p.doFlashSyncStopped color).Truthful := by
  have hd : p.doFlashSyncStopped color = _ := if_neg (not_not.mpr hs)
  rw [hd]
  refine truthful_after hw ?_ (congrArg (flashOf · _) hs)
  show _ ∈ palette p.state
  rw [hs]
  by_cases hc : color = .syncStopped <;> simp [setRightBg, palette, hc]

theorem truthful_invoke (hs : p.state = flash.state) (hw : p.timers.waiting = []) :
    (invoke flash p).Truthful := by
  cases flash
  case doFlash            => exact truthful_doFlash hs hw
  case doFlashSyncStopped => exact truthful_doFlashSyncStopped hs hw

theorem invoke_of_ne (hs : p.state ≠ flash.state) : invoke flash p = p := by
  cases flash
  all_goals exact if_pos hs

-- ### Steps

-- Each of the functions that set a color leaves a panel that tells the state.
theorem truthful_paint {t : Transition} (ho : p.timers.Only p.flashAfterId)
    (hs : p.state = t.state) : (paint t p).Truthful := by
  have hstop : p.stopFlash.timers.Only p.stopFlash.flashAfterId :=
    only_of_waiting (waiting_stopFlash ho)
  have hstate : p.stopFlash.state = t.state := state_stopFlash.trans hs
  cases t
  case setMidScan | setPrintFailed =>
    exact truthful_setRightBg ho (by rw [hs]; decide) (by rw [hs]; rfl)
  case setNoMatch =>
    exact truthful_doFlash (state_stopFlash.trans hs) (waiting_stopFlash ho)
  case setSyncStopped =>
    exact truthful_doFlashSyncStopped (state_stopFlash.trans hs) (waiting_stopFlash ho)
  all_goals exact truthful_setRightBg hstop (by rw [hstate]; decide) (by rw [hstate]; rfl)

theorem truthful_station {e : StationEvent} (hp : p.Truthful)
    (h : p.next isDigit (.station e) = some p') : p'.Truthful := by
  obtain ⟨station, hn, h⟩ := Option.bind_eq_some_iff.mp h
  cases h
  have hc : Changes p.state station.ui.state _ := Station.changes_next hn
  cases ht : p.station.transition e
  case some t =>
    rw [ht] at hc
    exact truthful_paint hp.only hc
  case none =>
    rw [ht] at hc
    exact ⟨hp.only, hc.mem_palette hp.color, fun flash hf => hp.flashes flash (hc.flashOf_eq hf)⟩

theorem truthful_timer {id : Nat} (hp : p.Truthful) (h : p.next isDigit (.timer id) = some p') :
    p'.Truthful := by
  obtain ⟨flash, hf, h⟩ := Option.bind_eq_some_iff.mp h
  cases h
  have ⟨hone, hid⟩ := hp.only.eq_singleton (Timers.mem_of_find? hf)
  have hw : (p.timers.cancel id).waiting = [] := (hid ▸ hp.only).cancel_self
  by_cases hs : p.state = flash.state
  case pos => exact truthful_invoke hs hw
  case neg =>
    -- The timer goes off too late, and finds another state.
    rw [invoke_of_ne (p := { p with timers := p.timers.cancel id }) hs]
    refine ⟨hp.only.cancel, hp.color, fun flash' hf' => ?_⟩
    obtain ⟨id', hm⟩ := hp.flashes flash' hf'
    rw [hone, List.mem_singleton] at hm
    cases hm
    exact absurd (state_of_flashOf hf') hs

theorem truthful_init (status : Option SyncStatusRecord) : (init status).Truthful where
  only      := Timers.only_empty
  color     := List.mem_singleton.mpr rfl
  flashes _ := nofun

theorem truthful_of_trace {status : Option SyncStatusRecord} {es : List PanelEvent}
    (h : Trace (Step py isDigit) (init status) es p) : p.Truthful := by
  refine h.invariant (fun {p e p'} hs hp => ?_) (truthful_init status)
  cases e
  case station => exact truthful_station hp hs.2
  case timer   => exact truthful_timer hp hs.2

-- However scans, threads, polls, the operator and timers interleave: no two timers flash the panel,
-- its color is one of the state, and in NO_MATCH and SYNC_STOPPED it goes on flashing, with a timer
-- that is waiting for just the color that is shown.
theorem flashes_truthfully {status : Option SyncStatusRecord} {es : List PanelEvent}
    (h : Trace (Step py isDigit) (init status) es p) :
    p.timers.waiting.length ≤ 1 ∧ p.rightBg ∈ palette p.state ∧
      ∀ flash, flashOf p.state p.rightBg = some flash →
        ∃ id, p.flashAfterId = some id ∧ p.timers.waiting = [(id, flash)] := by
  have hp := truthful_of_trace h
  refine ⟨hp.only.length_le, hp.color, fun flash hf => ?_⟩
  have ⟨id, hm⟩ := hp.flashes flash hf
  have ⟨hone, hid⟩ := hp.only.eq_singleton hm
  exact ⟨id, hid, hone⟩

-- A stop of the robot that the panel shows, after its first timer has gone off.
theorem flashes_truthfully_sample : ∃ p : Panel, p.rightBg = .syncStopped ∧
    p.timers.waiting.length ≤ 1 ∧ p.rightBg ∈ palette p.state ∧
      ∀ flash, flashOf p.state p.rightBg = some flash →
        ∃ id, p.flashAfterId = some id ∧ p.timers.waiting = [(id, flash)] := by
  have h : Trace (Step .ascii Char.isDigit) (init (some (Station.stopAt sampleTime)))
      [.station (.poll (.ok (some (Station.stopAt sampleTime)))), .timer 0] _ :=
    .cons ⟨rfl, rfl⟩ (.cons ⟨trivial, rfl⟩ (.nil _))
  exact ⟨_, rfl, flashes_truthfully h⟩

end Panel
end ReceivingApp
