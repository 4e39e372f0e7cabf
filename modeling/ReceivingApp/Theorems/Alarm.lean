import ReceivingApp.Adapters.Ui.SyncPoll
import ReceivingApp.Theorems.Runs
import ReceivingApp.Theorems.UiSteps

open Interaction

namespace ReceivingApp
namespace Ui

variable {isDigit : Char → Bool} {ui ui' : Ui} {e : UiEvent}

-- ### The alarm

-- The states that are entered with the alarm.
def Alarming (state : UiState) : Prop :=
  state = .noMatch ∨ state = .propose ∨ state = .needsModel ∨ state = .syncStopped

def Alarmed (ui : Ui) : Prop :=
  ui.alarm → Alarming ui.state

-- After such a step the alarm is on in another state. Either it was on and is not silenced, or it
-- is turned on by a reminder that comes too late.
def Resounds (ui : Ui) : UiEvent → Prop
  | .manualSubmit model _        => ui.alarm ∧ strip model ≠ "" ∧ ui.currentPo ≠ ""
  | .needsModelSubmit model onPo => ui.alarm ∧ strip model ≠ "" ∧ ui.currentPo ≠ "" ∧ onPo.isOk
  | .fire i =>
    match ui.callbacks[i]? with
    | some (.applyVerdict _ result _) => ui.alarm ∧ result.verdict = .auto
    | some (.applyOutcome outcome)    => ui.alarm ∧ outcome.status = .printFailed
    | some (.handleProposeScan barcode) =>
      if ui.pendingBarcode = some barcode then ui.alarm = true else ¬Alarming ui.state
    | some .handleNeedsModelScan => ¬Alarming ui.state
    | _ => False
  | _ => False

theorem alarmed_of_alarming (h : Alarming ui.state) : ui.Alarmed :=
  fun _ => h

theorem alarmed_of_silent (h : ui.alarm = false) : ui.Alarmed :=
  fun ha => by simp [h] at ha

theorem Alarmed.silent (h : ui.Alarmed) (hs : ¬Alarming ui.state) : ui.alarm = false := by
  simpa using mt h hs

theorem alarmed_setIdle : ui.setIdle.Alarmed :=
  alarmed_of_silent rfl

-- A state without an alarm is entered, and the alarm is left as it is.
theorem alarmed_iff_of_leaves (hs : ¬Alarming ui'.state) (ha : ui'.alarm = ui.alarm) :
    ui'.Alarmed ↔ ¬ui.alarm := by
  rw [Alarmed, ha]
  exact ⟨fun h hl => hs (h hl), fun h hl => absurd hl h⟩

-- The alarm is turned on, and the state is left as it is.
theorem alarmed_iff_of_turnedOn (hs : ui'.state = ui.state) (ha : ui'.alarm = true) :
    ui'.Alarmed ↔ ¬¬Alarming ui.state := by
  rw [Alarmed, ha, hs, not_not]
  exact ⟨fun h => h rfl, fun h _ => h⟩

-- A callback leaves the alarm on in a state without one exactly if the step resounds.
theorem alarmed_invoke_iff {i : Nat} {c : Callback} (hc : ui.callbacks[i]? = some c) :
    (invoke c (ui.dequeue i)).Alarmed ↔ ¬ui.Resounds (.fire i) := by
  cases c
  all_goals simp only [Resounds, hc]
  case lockPo | addPo | setIdle | autoClear => exact iff_of_true alarmed_setIdle id
  case handleNeedsModelScan => exact alarmed_iff_of_turnedOn rfl rfl
  case handleProposeScan barcode =>
    by_cases hb : ui.pendingBarcode = some barcode
    case pos =>
      simp only [invoke, handleProposeScan, dequeue, hb, if_true]
      exact alarmed_iff_of_leaves (by simp [Alarming, setMidScan]) rfl
    case neg =>
      simp only [invoke, handleProposeScan, dequeue, hb, if_false]
      exact alarmed_iff_of_turnedOn rfl rfl
  case applyVerdict result _ =>
    simp only [invoke, applyVerdict]
    cases result.verdict
    case auto =>
      rw [and_iff_left rfl]
      exact alarmed_iff_of_leaves (by simp [Alarming, setMidScan]) rfl
    case propose    => exact iff_of_true (alarmed_of_alarming (.inr (.inl rfl))) (by simp)
    case needsModel => exact iff_of_true (alarmed_of_alarming (.inr (.inr (.inl rfl)))) (by simp)
  case applyOutcome outcome =>
    simp only [invoke, applyOutcome]
    cases outcome.status
    case received | alreadyScanned => exact iff_of_true (alarmed_of_silent rfl) (by simp)
    case noMatch => exact iff_of_true (alarmed_of_alarming (.inl rfl)) (by simp)
    case printFailed =>
      rw [and_iff_left rfl]
      exact alarmed_iff_of_leaves (by simp [Alarming, setPrintFailed]) rfl

theorem alarmed_next_iff (h : ui.next isDigit e = some ui') (ha : ui.Alarmed) :
    ui'.Alarmed ↔ ¬ui.Resounds e := by
  -- The moves do not tell the outcomes apart that a callback may apply.
  by_cases hf : ∃ i, e = .fire i
  case pos =>
    obtain ⟨i, rfl⟩ := hf
    obtain ⟨c, hc, rfl⟩ := next_fire_eq_some_iff.mp h
    exact alarmed_invoke_iff hc
  case neg =>
    cases moves_of_next h
    case ignored | turnstile | realert | poSwitch | undismissed | poSubmit | showManual | unshown |
        cancelManual =>
      exact iff_of_true ha id
    case resolve hs _ =>
      have hn : ¬Alarming ui.state := by rcases hs with hs | hs <;> simp [Alarming, hs]
      exact iff_of_true (alarmed_of_silent (ha.silent hn)) id
    case serialMatch _ hs =>
      exact iff_of_true (alarmed_of_silent (ha.silent (by simp [Alarming, hs]))) id
    case dismissed | syncDismissed | reset => exact iff_of_true alarmed_setIdle id
    case manualRefused hr =>
      refine iff_of_true ha fun ⟨_, hm, hpo⟩ => hr.elim hm hpo
    case manualSubmit hm hpo =>
      refine Iff.trans (b := ¬ui.alarm) (alarmed_iff_of_leaves ?_ rfl) ?_
      · simp [Alarming, manualMatch, start]
      · simp [Resounds, hm, hpo]
    case formBlank hm =>
      exact iff_of_true (alarmed_of_alarming (.inr (.inr (.inl rfl)))) (by simp [Resounds, hm])
    case formNoPo hpo => exact iff_of_true alarmed_setIdle (by simp [Resounds, hpo])
    case formRaises   => exact iff_of_true ha (by simp [Resounds, Except.isOk, Except.toBool])
    case formOnPo hm hpo =>
      refine Iff.trans (b := ¬ui.alarm) (alarmed_iff_of_leaves ?_ rfl) ?_
      · simp [Alarming, enterMidScan, setMidScan]
      · simp [Resounds, hm, hpo, Except.isOk, Except.toBool]
    case formOffPo hm hpo =>
      refine Iff.trans (b := ¬ui.alarm) (alarmed_iff_of_leaves ?_ rfl) ?_
      · simp [Alarming, start]
      · simp [Resounds, hm, hpo, Except.isOk, Except.toBool]
    case finish hc =>
      refine iff_of_true ha ?_
      cases e <;> simp [callback, Resounds] at hc ⊢
    all_goals exact absurd ⟨_, rfl⟩ hf

theorem alarmed_pollSyncStatus {status : Except PyExc (Option SyncStatusRecord)}
    (ha : ui.Alarmed) : (ui.pollSyncStatus status).Alarmed := by
  unfold pollSyncStatus
  split
  case h_1 => exact ha
  case h_2 =>
    split
    case isTrue  => exact alarmed_of_alarming (.inr (.inr (.inr rfl)))
    case isFalse => exact ha

end Ui

namespace Station

variable {py : PyStd} {isDigit : Char → Bool} {status : Option SyncStatusRecord}

def Resounds (s : Station) : StationEvent → Prop
  | .ui e => s.ui.Resounds e
  | _     => False

-- In a run, the alarm is on only in the states for it exactly if no step resounds.
theorem alarmed_iff {es : List StationEvent} :
    Trace.Always (Step py isDigit) (fun s => s.ui.Alarmed) (.init status) es ↔
      Trace.Each (Step py isDigit) (fun s e => ¬s.Resounds e) (.init status) es := by
  refine Trace.always_iff_each (I := fun _ => True) (fun _ _ => trivial) ?_ trivial
    (Ui.alarmed_of_silent rfl)
  rintro s e s' ⟨_, hn⟩ _ ha
  cases e
  case ui =>
    obtain ⟨ui', hui, rfl⟩ := next_ui_eq_some_iff.mp hn
    exact Ui.alarmed_next_iff hui ha
  case writeSyncStatus =>
    cases hn
    exact iff_of_true ha id
  case poll =>
    cases next_poll_eq_some_iff.mp hn
    exact iff_of_true (Ui.alarmed_pollSyncStatus ha) id

-- A barcode is scanned that stands around the model of the only unit, and is scanned again to
-- confirm that model.
def confirmProposal : List (Ui → UiEvent) := [
  fun _ => .poSubmit "7",
  fun _ => .populated 0 (.ok ()),
  fun _ => .fire 0,
  fun _ => .scan "XAB1Y",
  Ui.resolves (.loaded [.unit "1" "7" "AB1"]) 0,
  fun _ => .fire 0,
  fun _ => .scan "XAB1Y",
  fun _ => .fire 0
]

theorem not_alarmed :
    ¬∀ (py : PyStd) (isDigit : Char → Bool) (status : Option SyncStatusRecord) es,
      Trace.Always (Step py isDigit) (fun s => s.ui.Alarmed) (.init status) es := by
  intro h
  have ⟨es, ui, ht, hf⟩ := Ui.runs_of_play .init confirmProposal
    (f := fun ui => (ui.state, ui.alarm)) (a := (.midScan, true))
    (by simp [confirmProposal, isBlank, isSpace]) (by decide +kernel)
  obtain ⟨hs, ha⟩ := Prod.mk.inj hf
  have ⟨s, ht, hui⟩ := runs_ui (s := .init none) ht rfl
  have hl : s.ui.Alarmed := h _ _ none _ _ [] s (List.append_nil _).symm ht
  subst hui
  simp [Ui.Alarmed, Ui.Alarming, hs, ha] at hl

end Station
end ReceivingApp
