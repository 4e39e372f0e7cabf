import ReceivingApp.Theorems.Loaded
import ReceivingApp.Theorems.Runs

open Interaction

namespace ReceivingApp.Ui

variable {py : PyStd} {isDigit : Char → Bool} {ui ui' : Ui} {e : UiEvent}

-- Whatever happens now: a mapping is only saved in NEEDS_MODEL, and for the barcode of the verdict
-- that has led there.
def LearnsRight (isDigit : Char → Bool) (ui : Ui) : Prop :=
  ∀ e ui' raw model, ui.next isDigit e = some ui' → ui'.mappings = ui.mappings ++ [(raw, model)] →
    ui.state = .needsModel ∧ ui.notes.barcode = some raw

-- The events that lead from NEEDS_MODEL to another state and leave the form open.
def Leaves (ui : Ui) : UiEvent → Prop
  | .manualSubmit model _ => strip model ≠ "" ∧ ui.currentPo ≠ ""
  | .fire i =>
    match ui.callbacks[i]? with
    | some (.lockPo _) | some (.addPo _) | some (.autoClear _) | some .setIdle
    | some (.applyOutcome _) => True
    | some (.handleProposeScan barcode) => ui.pendingBarcode = some barcode
    | some (.applyVerdict _ result _)   => result.verdict ≠ .needsModel
    | _ => False
  | _ => False

-- As long as the form is open, the state is left by Esc or End and by the form only.
def Undisturbed (ui : Ui) (e : UiEvent) : Prop :=
  ui.needsModelPlaced → ¬ui.Leaves e

-- ### The form

-- The form is open in NEEDS_MODEL only, for the barcode of the verdict.
def FormRight (ui : Ui) : Prop :=
  ui.needsModelPlaced → ui.state = .needsModel ∧ ui.notes.barcode = some (orEmpty ui.pendingBarcode)

-- The button Reset is not there in NEEDS_MODEL.
def NoReset (ui : Ui) : Prop :=
  ui.state = .needsModel → ui.resetPlaced = false

-- Nothing but the form saves a mapping.
theorem saves_of_moves {raw model : String} (hm : ui.Moves e ui')
    (hs : ui'.mappings = ui.mappings ++ [(raw, model)]) :
    ui.needsModelPlaced ∧ raw = orEmpty ui.pendingBarcode := by
  have hsame (h : ui'.mappings = ui.mappings) : False := by simp [h] at hs
  have hform {m : String} (h : ui'.mappings = (ui.saveForm m).mappings) :
      raw = orEmpty ui.pendingBarcode := by
    have heq := List.append_cancel_left (h.symm.trans hs)
    simp only [List.cons.injEq, Prod.mk.injEq] at heq
    exact heq.1.1.symm
  cases hm
  case formRaises hp _ _ | formOnPo hp _ _ | formOffPo hp _ _ => exact ⟨hp, hform rfl⟩
  all_goals exact (hsame rfl).elim

theorem learnsRight_iff (h : ui.Loaded) : ui.LearnsRight isDigit ↔ ui.FormRight := by
  constructor
  case mp =>
    intro hl hp
    have hpo := h.ne_of_needsModelPlaced hp
    have hm : strip "M" ≠ "" := by decide +kernel
    refine hl (.needsModelSubmit "M" (.ok true)) _ _ (strip "M") (if_pos hp) ?_
    simp [onNeedsModelSubmit, hm, hpo, setMidScan, establish]
  case mpr =>
    intro hf e ui' raw model hn hs
    obtain ⟨hp, rfl⟩ := saves_of_moves (moves_of_next hn) hs
    exact hf hp

-- ### Steps

theorem NoReset.step (hm : ui.Moves e ui') (h : ui.NoReset) : ui'.NoReset := by
  cases hm
  case formBlank | verdictNeedsModel => exact fun _ => rfl
  case ignored | turnstile | realert | poSwitch | undismissed | poSubmit | showManual | unshown |
      cancelManual | manualRefused | formRaises | unconfirmed | realerted | finish =>
    exact h
  all_goals exact nofun

-- A step that changes nothing about the form.
theorem undisturbed_iff_of_same (h : ui.FormRight) (hp : ui'.needsModelPlaced = ui.needsModelPlaced)
    (hs : ui'.state = ui.state) (hn : ui'.notes = ui.notes)
    (hb : ui'.pendingBarcode = ui.pendingBarcode) (hl : ¬ui.Leaves e) :
    ui'.FormRight ↔ ui.Undisturbed e :=
  iff_of_true (by rwa [FormRight, hp, hs, hn, hb]) fun _ => hl

-- A step that leaves the form as it is in a state that is not NEEDS_MODEL.
theorem undisturbed_iff_of_leaves (hp : ui'.needsModelPlaced = ui.needsModelPlaced)
    (hs : ui'.state ≠ .needsModel) (hl : ui.Leaves e) : ui'.FormRight ↔ ui.Undisturbed e := by
  rw [FormRight, hp]
  exact ⟨fun h hp' => absurd (h hp').1 hs, fun h hp' => absurd hl (h hp')⟩

-- A step that is made in another state, in which the form is closed.
theorem undisturbed_iff_of_ne (h : ui.FormRight) (hs : ui.state ≠ .needsModel)
    (hp : ui'.needsModelPlaced = ui.needsModelPlaced) : ui'.FormRight ↔ ui.Undisturbed e := by
  have hn : ¬ui.needsModelPlaced := fun hp => hs (h hp).1
  rw [FormRight, hp]
  exact iff_of_true (fun hp => absurd hp hn) fun hp => absurd hp hn

theorem formRight_step_iff (hm : ui.Moves e ui') (hr : ui.NoReset) (h : ui.FormRight) :
    ui'.FormRight ↔ ui.Undisturbed e := by
  cases hm
  case ignored | undismissed | unshown | showManual | cancelManual | turnstile | realert |
      poSwitch | poSubmit =>
    exact undisturbed_iff_of_same h rfl rfl rfl rfl id
  case resolve hs _ =>
    exact undisturbed_iff_of_ne h (by rcases hs with hs | hs <;> simp [hs]) rfl
  case serialMatch hs   => exact undisturbed_iff_of_ne h (by simp [hs]) rfl
  case syncDismissed hs => exact undisturbed_iff_of_ne h (by simp [hs]) rfl
  case reset hreset     =>
    exact undisturbed_iff_of_ne h (fun hs => by simp [hr hs] at hreset) rfl
  case manualRefused hn =>
    exact undisturbed_iff_of_same h rfl rfl rfl rfl fun ⟨hm, hpo⟩ => hn.elim hm hpo
  case manualSubmit hm hpo => exact undisturbed_iff_of_leaves rfl nofun ⟨hm, hpo⟩
  -- The form is closed, or opened again for the same barcode.
  case dismissed | formNoPo | formRaises | formOnPo | formOffPo =>
    exact iff_of_true nofun fun _ h => h
  case formBlank hp _ => exact iff_of_true (fun _ => ⟨rfl, (h hp).2⟩) fun _ h => h
  case unconfirmed hc hb =>
    exact undisturbed_iff_of_same h rfl rfl rfl rfl (by simpa [Leaves, hc] using hb)
  case realerted hc => exact undisturbed_iff_of_same h rfl rfl rfl rfl (by simp [Leaves, hc])
  case confirmed hc hb =>
    exact undisturbed_iff_of_leaves rfl nofun (by simpa [Leaves, hc] using hb)
  case verdictAuto hc hv | verdictPropose hc hv =>
    exact undisturbed_iff_of_leaves rfl nofun (by simp [Leaves, hc, hv])
  case verdictNeedsModel hc hv =>
    exact iff_of_true (fun _ => ⟨rfl, rfl⟩) fun _ => by simp [Leaves, hc, hv]
  case poLocked hc | poAdded hc | received hc | noMatch hc | alreadyScanned hc | printFailed hc |
      failed hc | autoCleared hc =>
    exact undisturbed_iff_of_leaves rfl nofun (by simp [Leaves, hc])
  case finish hc =>
    refine undisturbed_iff_of_same h rfl rfl rfl rfl ?_
    cases e <;> simp [callback, Leaves] at hc ⊢

-- In a run, no mapping can ever be saved for a wrong barcode exactly if the form is never left
-- open.

-- The form of an earlier barcode stays open when a purchase order is loaded, and is filled in when
-- the next barcode has been scanned.
def formLeftOpen : List (Ui → UiEvent) := [
  fun _ => .poSubmit "7,8",
  fun _ => .populated 0 (.ok ()),
  fun _ => .populated 0 (.ok ()),
  fun _ => .fire 0,
  fun _ => .scan "A",
  resolves .init 0,
  fun _ => .fire 1,
  fun _ => .fire 0,
  fun _ => .scan "B"
]

end ReceivingApp.Ui
