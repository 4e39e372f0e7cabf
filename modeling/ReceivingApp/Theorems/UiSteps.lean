import ReceivingApp.Adapters.Ui.SyncPoll
import ReceivingApp.Lib.Trace
import Mathlib.Data.List.Perm.Basic

open Interaction

namespace ReceivingApp

-- ### Scan dispatch

theorem decideScanAction_busy {state : UiState} {cleaned : String} {hasPo hasResolver : Bool}
    {pos : List String} (h : state = .resolving ∨ state = .matching) :
    decideScanAction state cleaned hasPo hasResolver pos = .dropBusy := by
  rcases h with rfl | rfl <;> rfl

-- A serial is only matched from MID_SCAN.
theorem decideScanAction_eq_serialMatch_iff {state : UiState} {cleaned serial : String}
    {hasPo hasResolver : Bool} {pos : List String} :
    decideScanAction state cleaned hasPo hasResolver pos = .serialMatch serial ↔
      (state = .midScan ∧ isPoLabel cleaned = false) ∧ cleaned = serial := by
  cases hb : isPoLabel cleaned
  all_goals
    cases state
    all_goals
      simp only [decideScanAction, hb, if_true, if_false, Bool.false_eq_true]
      repeat' split
      all_goals simp

namespace Ui

variable {ui ui' : Ui} {isDigit : Char → Bool} {e : UiEvent}

-- What a scan does in a state that takes it for a model, and in one that takes it for a serial.
def resolve (cleaned : String) (ui : Ui) : Ui :=
  start (.runResolution ui.beginCycle.origin cleaned) { ui.beginCycle with
    pendingBarcode := some cleaned
    state          := .resolving
  }

def serialMatch (serial : String) (ui : Ui) : Ui :=
  start (.runMatch (orEmpty ui.modelScan) serial ui.currentPo) { ui with state := .matching }

def manualMatch (model serial : String) (ui : Ui) : Ui :=
  start (.runMatch model serial ui.currentPo) { ui.hideManualEntry.beginCycle with
    modelScan := some model
    state     := .matching
  }

def enterMidScan (model : Option String) (origin : Option Origin) (ui : Ui) : Ui :=
  setMidScan { ui.establish (orEmpty model) origin with modelScan := model }

-- The queue has taken a callback out.
def dequeue (i : Nat) (ui : Ui) : Ui :=
  { ui with callbacks := ui.callbacks.eraseIdx i }

def closeForm (ui : Ui) : Ui :=
  { ui with needsModelPlaced := false }

-- The form is closed and what was typed is saved for the barcode.
def saveForm (model : String) (ui : Ui) : Ui := { ui.closeForm with
  mappings := ui.mappings ++ [(orEmpty ui.pendingBarcode, strip model)]
}

-- The states in which Esc and End go back to IDLE.
def Dismissable (state : UiState) : Prop :=
  state = .noMatch ∨ state = .printFailed ∨ state = .alreadyScanned ∨ state = .propose ∨
    state = .needsModel

-- All that a step can do.
inductive Moves (ui : Ui) : UiEvent → Ui → Prop
  | ignored {barcode : String} : Moves ui (.scan barcode) ui
  | turnstile {barcode : String} : ui.state = .propose →
    Moves ui (.scan barcode) (ui.after (.handleProposeScan (strip barcode)))
  | realert {barcode : String} : ui.state = .needsModel →
    Moves ui (.scan barcode) (ui.after .handleNeedsModelScan)
  | poSwitch {barcode po : String} : po ∈ ui.activePos →
    Moves ui (.scan barcode) (ui.after (.lockPo po))
  | resolve {barcode : String} : ui.state = .idle ∨ ui.state = .matchFound → ui.currentPo ≠ "" →
    Moves ui (.scan barcode) (ui.resolve (strip barcode))
  | serialMatch {barcode : String} : isPoLabel (strip barcode) = false → ui.state = .midScan →
    Moves ui (.scan barcode) (ui.serialMatch (strip barcode))
  | undismissed : Moves ui .dismiss ui
  | dismissed : Dismissable ui.state →
    Moves ui .dismiss ui.closeForm.setIdle
  | syncDismissed : ui.state = .syncStopped → Moves ui .dismiss ui.dismissSyncStopped
  | reset : ui.resetPlaced → Moves ui .reset ui.setIdle
  | poSubmit {text : String} {pos : List String} : (∀ po ∈ pos, po ≠ "") →
    Moves ui (.poSubmit text) { ui with threads := ui.threads ++ pos.map .runPopulate }
  | showManual : ui.currentPo ≠ "" → Moves ui .showManual { ui with manualPlaced := true }
  | unshown : Moves ui .showManual ui
  | cancelManual : Moves ui .cancelManual ui.hideManualEntry
  | manualRefused {model serial : String} : strip model = "" ∨ ui.currentPo = "" →
    Moves ui (.manualSubmit model serial) ui.hideManualEntry
  | manualSubmit {model serial : String} : ui.manualPlaced → strip model ≠ "" → ui.currentPo ≠ "" →
    Moves ui (.manualSubmit model serial) (ui.manualMatch (strip model) (strip serial))
  | formBlank {model : String} {onPo : Except PyExc Bool} : ui.needsModelPlaced → strip model = "" →
    Moves ui (.needsModelSubmit model onPo) (ui.closeForm.setNeedsModel (orEmpty ui.pendingBarcode))
  | formNoPo {model : String} {onPo : Except PyExc Bool} : ui.needsModelPlaced → strip model ≠ "" →
    ui.currentPo = "" → Moves ui (.needsModelSubmit model onPo) ui.closeForm.setIdle
  | formRaises {model : String} {e : PyExc} : ui.needsModelPlaced → strip model ≠ "" →
    ui.currentPo ≠ "" → Moves ui (.needsModelSubmit model (.error e)) (ui.saveForm model)
  | formOnPo {model : String} : ui.needsModelPlaced → strip model ≠ "" → ui.currentPo ≠ "" →
    Moves ui (.needsModelSubmit model (.ok true))
      ((ui.saveForm model).enterMidScan (some (strip model)) ui.origin)
  | formOffPo {model : String} : ui.needsModelPlaced → strip model ≠ "" → ui.currentPo ≠ "" →
    Moves ui (.needsModelSubmit model (.ok false))
      (start (.runMatch (strip model) "" ui.currentPo) { ui.saveForm model with
        state := .matching
      })
  | confirmed {i : Nat} {barcode : String} :
    ui.callbacks[i]? = some (.handleProposeScan barcode) →
    ui.pendingBarcode = some barcode → Moves ui (.fire i)
      ((ui.dequeue i).enterMidScan (some (orEmpty ui.proposedModel)) ui.notes.proposal)
  | unconfirmed {i : Nat} {barcode : String} :
    ui.callbacks[i]? = some (.handleProposeScan barcode) →
    ui.pendingBarcode ≠ some barcode → Moves ui (.fire i) { ui.dequeue i with alarm := true }
  | realerted {i : Nat} : ui.callbacks[i]? = some .handleNeedsModelScan →
    Moves ui (.fire i) (ui.dequeue i).handleNeedsModelScan
  | poLocked {i : Nat} {po : String} : ui.callbacks[i]? = some (.lockPo po) →
    Moves ui (.fire i) ((ui.dequeue i).lockPo po)
  | poAdded {i : Nat} {po : String} : ui.callbacks[i]? = some (.addPo po) →
    Moves ui (.fire i) ((ui.dequeue i).addPo po)
  | verdictAuto {i : Nat} {o : Origin} {result : ModelScanResult} {raw : String} :
    ui.callbacks[i]? = some (.applyVerdict o result raw) → result.verdict = .auto →
    Moves ui (.fire i) ((ui.dequeue i).enterMidScan result.model o)
  | verdictPropose {i : Nat} {o : Origin} {result : ModelScanResult} {raw : String} :
    ui.callbacks[i]? = some (.applyVerdict o result raw) → result.verdict = .propose →
    Moves ui (.fire i) (setPropose raw (orEmpty result.model) { ui.dequeue i with
      notes := { ui.notes with proposal := o }
    })
  | verdictNeedsModel {i : Nat} {o : Origin} {result : ModelScanResult} {raw : String} :
    ui.callbacks[i]? = some (.applyVerdict o result raw) → result.verdict = .needsModel →
    Moves ui (.fire i) (setNeedsModel raw { ui.dequeue i with
      notes := { ui.notes with barcode := raw }
    })
  | received {i : Nat} {outcome : ScanOutcome} :
    ui.callbacks[i]? = some (.applyOutcome outcome) →
    Moves ui (.fire i) (ui.dequeue i).setMatchFound
  | noMatch {i : Nat} {outcome : ScanOutcome} :
    ui.callbacks[i]? = some (.applyOutcome outcome) →
    Moves ui (.fire i) (ui.dequeue i).setNoMatch
  | alreadyScanned {i : Nat} {outcome : ScanOutcome} :
    ui.callbacks[i]? = some (.applyOutcome outcome) →
    Moves ui (.fire i) (ui.dequeue i).setAlreadyScanned
  | printFailed {i : Nat} {outcome : ScanOutcome} :
    ui.callbacks[i]? = some (.applyOutcome outcome) →
    Moves ui (.fire i) (ui.dequeue i).setPrintFailed
  | failed {i : Nat} : ui.callbacks[i]? = some .setIdle → Moves ui (.fire i) (ui.dequeue i).setIdle
  | autoCleared {i cycle : Nat} : ui.callbacks[i]? = some (.autoClear cycle) →
    Moves ui (.fire i) (ui.dequeue i).setIdle
  | finish {e : UiEvent} {i : Nat} {t : Thread} {cs : List Callback} : ui.threads[i]? = some t →
    callback t e = some cs →
    Moves ui e { ui with threads := ui.threads.eraseIdx i, callbacks := ui.callbacks ++ cs }

-- What a scan does that is decided to be the label of a purchase order.
theorem moves_poLabel (ui : Ui) (barcode po : String) :
    Moves ui (.scan barcode) (if po ∈ ui.activePos then ui.after (.lockPo po) else ui) := by
  split
  case isTrue h => exact .poSwitch h
  case isFalse  => exact .ignored

theorem moves_onScan (barcode : String) : Moves ui (.scan barcode) (ui.onScan barcode) := by
  by_cases hb : isPoLabel (strip barcode)
  case pos =>
    have h := moves_poLabel ui barcode (strip (String.ofList ((strip barcode).toList.drop 3)))
    cases hs : ui.state
    case resolving | matching => simpa [onScan, hs, decideScanAction] using Moves.ignored
    case propose    => simpa [onScan, hs, decideScanAction] using Moves.turnstile hs
    case needsModel => simpa [onScan, hs, decideScanAction] using Moves.realert hs
    all_goals
      simp only [onScan, hs, decideScanAction, hb, if_true]
      split at h <;> simp_all
  case neg =>
    cases hs : ui.state
    all_goals simp only [onScan, hs, decideScanAction, hb, if_false, Bool.false_eq_true]
    case propose    => exact .turnstile hs
    case needsModel => exact .realert hs
    case midScan    => exact .serialMatch (by simpa using hb) hs
    case idle | matchFound =>
      by_cases hpo : ui.currentPo = ""
      case pos => simpa [hpo] using Moves.ignored
      case neg =>
        have h : Moves ui (.scan barcode) _ := .resolve (by simp [hs]) hpo
        simpa [hpo, Ui.resolve] using h
    all_goals exact .ignored

theorem moves_dismissNoMatch : Moves ui .dismiss ui.dismissNoMatch := by
  cases hs : ui.state
  all_goals simp only [dismissNoMatch, hs]
  case noMatch | printFailed | alreadyScanned | propose | needsModel =>
    exact .dismissed (by simp [Dismissable, hs])
  case syncStopped => exact .syncDismissed hs
  all_goals exact .undismissed

theorem onPoSubmit_eq {text : String} :
    ui.onPoSubmit isDigit text =
      { ui with threads := ui.threads ++ (poList isDigit text).map .runPopulate } := by
  unfold onPoSubmit
  generalize poList isDigit text = pos
  induction pos generalizing ui
  case nil          => simp
  case cons po _ ih =>
    rw [List.foldl_cons, ih]
    simp [start]

theorem ne_empty_of_mem_poList {text po : String} (h : po ∈ poList isDigit text) : po ≠ "" := by
  simp only [poList] at h
  split at h
  case isTrue  => simpa using (List.mem_filter.mp h).2
  case isFalse => cases h

theorem moves_showManualEntry : Moves ui .showManual ui.showManualEntry := by
  unfold showManualEntry
  split
  case isTrue h => exact .showManual h.2
  case isFalse  => exact .unshown

theorem moves_onManualSubmit {model serial : String} (hp : ui.manualPlaced) :
    Moves ui (.manualSubmit model serial) (ui.onManualSubmit model serial) := by
  simp only [onManualSubmit]
  split
  case isTrue h  => exact .manualRefused h
  case isFalse h =>
    have ⟨hm, hpo⟩ := not_or.mp h
    exact .manualSubmit hp hm hpo

theorem moves_onNeedsModelSubmit (model : String) (onPo : Except PyExc Bool)
    (hp : ui.needsModelPlaced) :
    Moves ui (.needsModelSubmit model onPo) (ui.onNeedsModelSubmit model onPo) := by
  simp only [onNeedsModelSubmit]
  split
  case isTrue hm => exact .formBlank hp hm
  case isFalse hm =>
    split
    case isTrue hpo => exact .formNoPo hp hm hpo
    case isFalse hpo =>
      cases onPo
      case error => exact .formRaises hp hm hpo
      case ok b =>
        cases b
        case true  => exact .formOnPo hp hm hpo
        case false => exact .formOffPo hp hm hpo

theorem moves_invoke {i : Nat} {c : Callback} (hc : ui.callbacks[i]? = some c) :
    Moves ui (.fire i) (invoke c (ui.dequeue i)) := by
  cases c
  case handleNeedsModelScan => exact .realerted hc
  case lockPo               => exact .poLocked hc
  case addPo                => exact .poAdded hc
  case setIdle              => exact .failed hc
  case autoClear            => exact .autoCleared hc
  case handleProposeScan =>
    simp only [invoke, handleProposeScan]
    split
    case isTrue hb  => exact .confirmed hc hb
    case isFalse hb => exact .unconfirmed hc hb
  case applyVerdict o result raw =>
    simp only [invoke, applyVerdict]
    cases hv : result.verdict
    case auto       => exact .verdictAuto hc hv
    case propose    => exact .verdictPropose hc hv
    case needsModel => exact .verdictNeedsModel hc hv
  case applyOutcome outcome =>
    simp only [invoke, applyOutcome]
    cases outcome.status
    case received       => exact .received hc
    case noMatch        => exact .noMatch hc
    case alreadyScanned => exact .alreadyScanned hc
    case printFailed    => exact .printFailed hc

theorem moves_finish {i : Nat} (h : ui.finish i e = some ui') : Moves ui e ui' := by
  simp only [finish, Option.bind_eq_bind, Option.bind_eq_some_iff] at h
  obtain ⟨t, ht, cs, hc, h⟩ := h
  cases h
  exact .finish ht hc

theorem next_fire_eq_some_iff {i : Nat} :
    ui.next isDigit (.fire i) = some ui' ↔
      ∃ c, ui.callbacks[i]? = some c ∧ invoke c (ui.dequeue i) = ui' := by
  simp [next, dequeue, Option.bind_eq_some_iff]

theorem moves_of_next (h : ui.next isDigit e = some ui') : Moves ui e ui' := by
  cases e
  case fire =>
    obtain ⟨c, hc, rfl⟩ := next_fire_eq_some_iff.mp h
    exact moves_invoke hc
  all_goals
    simp only [next, Option.some.injEq, Option.ite_none_right_eq_some,
      Option.ite_none_left_eq_some] at h
  case scan      => exact h ▸ moves_onScan _
  case dismiss   => exact h ▸ moves_dismissNoMatch
  case poSubmit  => exact h ▸ onPoSubmit_eq ▸ .poSubmit fun _ => ne_empty_of_mem_poList
  case reset     => exact h.2 ▸ .reset h.1
  case showManual   => exact h.2 ▸ moves_showManualEntry
  case cancelManual => exact h.2 ▸ .cancelManual
  case manualSubmit => exact h.2 ▸ moves_onManualSubmit h.1
  case needsModelSubmit => exact h.2 ▸ moves_onNeedsModelSubmit _ _ h.1
  case resolved | matched | populated => exact moves_finish h

-- ### Playing a run

abbrev Runs : Ui → List UiEvent → Ui → Prop :=
  Trace (Step .ascii Char.isDigit)

-- The state after some events, each of which may depend on the state it meets.
def play : List (Ui → UiEvent) → Ui → Option Ui
  | [], ui      => some ui
  | f :: fs, ui => ui.next Char.isDigit (f ui) >>= play fs

theorem runs_of_play (ui : Ui) (fs : List (Ui → UiEvent)) {α : Type} {f : Ui → α} {a : α}
    (hp : ∀ g ∈ fs, ∀ ui, Possible .ascii ui (g ui)) (h : (play fs ui).map f = some a) :
    ∃ es ui', Runs ui es ui' ∧ f ui' = a := by
  induction fs generalizing ui
  case nil => exact ⟨[], ui, .nil ui, by simpa [play] using h⟩
  case cons g gs ih =>
    cases hn : ui.next Char.isDigit (g ui)
    case none => simp [play, hn] at h
    case some ui₁ =>
      simp only [play, hn, Option.bind_eq_bind, Option.bind_some] at h
      have ⟨es, ui', ht, hf⟩ := ih ui₁ (fun f hf => hp f (List.mem_cons_of_mem g hf)) h
      exact ⟨g ui :: es, ui', .cons ⟨hp g List.mem_cons_self ui, hn⟩ ht, hf⟩

section Possible

variable {py : PyStd} {ui : Ui}

@[simp]
theorem possible_scan_iff {barcode : String} :
    Possible py ui (.scan barcode) ↔ isBlank barcode = false :=
  Iff.rfl

@[simp]
theorem possible_poSubmit {text : String} : Possible py ui (.poSubmit text) :=
  trivial

@[simp]
theorem possible_populated {i : Nat} {result : Except PyExc Unit} :
    Possible py ui (.populated i result) :=
  trivial

@[simp]
theorem possible_fire {i : Nat} : Possible py ui (.fire i) :=
  trivial

@[simp]
theorem possible_showManual : Possible py ui .showManual :=
  trivial

@[simp]
theorem possible_manualSubmit {model serial : String} :
    Possible py ui (.manualSubmit model serial) :=
  trivial

end Possible

-- A resolution that works on the given world, undisturbed.
def resolves (w : World) (i : Nat) (ui : Ui) : UiEvent :=
  .resolved i <|
    match ui.threads[i]? with
    | some (.runResolution origin raw) =>
      ((resolveModelBarcode .ascii raw origin.po).run World.handle w).1
    | _ => .ok ⟨.needsModel, none⟩

@[simp]
theorem possible_resolves (w : World) (i : Nat) (ui : Ui) :
    Possible .ascii ui (resolves w i ui) := by
  intro origin raw ht
  rw [ht]
  exact ⟨w, _, Program.steps_run (fun _ op w => ⟨w, .done op w⟩) _ _⟩

-- A match at the given desk, undisturbed.
def completes (d : Desk) (clock : Clock .ascii) (i : Nat) (ui : Ui) : UiEvent :=
  .matched i <|
    match ui.threads[i]? with
    | some (.runMatch model serial po) =>
      ((handleScan model serial po (process .ascii clock 0)).run (Desk.handle true) d).1
    | _ => .error ⟨.valueError, ""⟩

@[simp]
theorem possible_completes (d : Desk) (clock : Clock .ascii) (i : Nat) (ui : Ui) :
    Possible .ascii ui (completes d clock i ui) := by
  intro model serial po ht
  rw [ht]
  refine ⟨clock, 0, d, _, Program.steps_run (fun _ op d => ⟨d, ?_⟩) _ _⟩
  exact Desk.answers_handle true _ nofun _ op d

end Ui

-- ### The UI with the status it polls

namespace Station

variable {s s' : Station} {isDigit : Char → Bool}

theorem next_ui_eq_some_iff {e : UiEvent} :
    s.next isDigit (.ui e) = some s' ↔
      ∃ ui, s.ui.next isDigit e = some ui ∧
        { s with ui := ui, dismissed := s.dismissed ++ s.dismisses e } = s' := by
  simp [next, Option.bind_eq_some_iff]

theorem next_poll_eq_some_iff {status : Except PyExc (Option SyncStatusRecord)} :
    s.next isDigit (.poll status) = some s' ↔
      { s with
        ui    := s.ui.pollSyncStatus status
        shown := (s.ui.alert status).or s.shown
      } = s' := by
  simp [next]

-- A run of the UI alone is a run in which nothing is polled.
theorem runs_ui {py : PyStd} {ui ui' : Ui} {es : List UiEvent}
    (h : Trace (Ui.Step py isDigit) ui es ui') (hs : s.ui = ui) :
    ∃ s', Trace (Step py isDigit) s (es.map .ui) s' ∧ s'.ui = ui' := by
  refine h.simulate (R := fun ui (s : Station) => s.ui = ui) ?_ hs
  rintro ui e ui' s ⟨hp, hn⟩ rfl
  exact ⟨_, ⟨hp, next_ui_eq_some_iff.mpr ⟨ui', hn, rfl⟩⟩, rfl⟩

end Station
end ReceivingApp
