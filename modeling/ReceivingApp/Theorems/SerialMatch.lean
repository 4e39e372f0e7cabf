import ReceivingApp.Theorems.Runs
import ReceivingApp.Theorems.UiSteps

open Interaction

namespace ReceivingApp.Ui

variable {py : PyStd} {isDigit : Char → Bool} {ui ui' : Ui} {e : UiEvent}

-- The arguments of the `_run_match` that a scan starts in MID_SCAN.
def serialMatch? (barcode : String) (ui : Ui) : Option (String × String × String) :=
  match decideScanAction ui.state (strip barcode) (ui.currentPo ≠ "") true ui.activePos with
  | .serialMatch serial => some (orEmpty ui.modelScan, serial, ui.currentPo)
  | _                   => none

-- Whatever is scanned now: if it starts a match, then for the model that was last established, and
-- that was established in this cycle and for the purchase order of the match.
def MatchesEstablished (ui : Ui) : Prop :=
  ∀ barcode model serial po, ui.serialMatch? barcode = some (model, serial, po) →
    ui.notes.model = some (model, ⟨po, ui.notes.cycle⟩)

-- A verdict AUTO is only applied, and a proposal only confirmed, where it comes from the last
-- resolution that was started and is about the current purchase order.
def Current (ui : Ui) : UiEvent → Prop
  | .fire i =>
    match ui.callbacks[i]? with
    | some (.applyVerdict origin result _) => result.verdict = .auto → origin = ui.origin
    | some (.handleProposeScan barcode) =>
      ui.pendingBarcode = some barcode → ui.notes.proposal = some ui.origin
    | _ => True
  | _ => True

-- ### The model of MID_SCAN

def Established (ui : Ui) : Prop :=
  ui.state = .midScan → ui.notes.model = some (orEmpty ui.modelScan, ui.origin)

theorem serialMatch?_eq_some_iff {barcode model serial po : String} :
    ui.serialMatch? barcode = some (model, serial, po) ↔
      ((ui.state = .midScan ∧ isPoLabel (strip barcode) = false) ∧ strip barcode = serial) ∧
        orEmpty ui.modelScan = model ∧ ui.currentPo = po := by
  constructor
  case mp =>
    intro h
    simp only [serialMatch?] at h
    split at h
    case h_1 hd =>
      cases h
      exact ⟨decideScanAction_eq_serialMatch_iff.mp hd, rfl, rfl⟩
    case h_2 => cases h
  case mpr =>
    rintro ⟨hd, rfl, rfl⟩
    rw [serialMatch?, decideScanAction_eq_serialMatch_iff.mpr hd]

theorem matchesEstablished_iff : ui.MatchesEstablished ↔ ui.Established := by
  constructor
  case mp =>
    intro h hs
    exact h "S" _ _ _ (serialMatch?_eq_some_iff.mpr ⟨⟨⟨hs, by decide +kernel⟩, rfl⟩, rfl, rfl⟩)
  case mpr =>
    intro h barcode model serial po hm
    obtain ⟨⟨⟨hs, _⟩, _⟩, rfl, rfl⟩ := serialMatch?_eq_some_iff.mp hm
    exact h hs

-- The model that is entered in MID_SCAN is established exactly where it comes from here and now.
theorem established_enterMidScan_iff {model : Option String} {o : Option Origin} :
    (ui.enterMidScan model o).Established ↔ o = some ui.origin := by
  have h : (ui.enterMidScan model o).Established ↔
      o.map (orEmpty model, ·) = some (orEmpty model, ui.origin) :=
    ⟨fun h => h rfl, fun h _ => h⟩
  rw [h]
  cases o <;> simp

theorem established_step_iff (hm : ui.Moves e ui') (h : ui.Established) :
    ui'.Established ↔ ui.Current e := by
  cases hm
  case ignored | undismissed | unshown | showManual | cancelManual | turnstile | realert |
      poSwitch | poSubmit | manualRefused | formRaises =>
    exact iff_of_true h trivial
  case resolve | serialMatch | dismissed | syncDismissed | reset | manualSubmit | formBlank |
      formNoPo | formOffPo =>
    exact iff_of_true nofun trivial
  case formOnPo => exact iff_of_true (established_enterMidScan_iff.mpr rfl) trivial
  case confirmed hc hb =>
    simp only [Current, hc, hb, true_imp_iff]
    exact established_enterMidScan_iff
  case unconfirmed hc hb =>
    simp only [Current, hc]
    exact iff_of_true h fun hb' => absurd hb' hb
  case verdictAuto hc hv =>
    simp only [Current, hc, hv, true_imp_iff]
    exact established_enterMidScan_iff.trans Option.some_inj
  case verdictPropose hc hv | verdictNeedsModel hc hv =>
    simp only [Current, hc, hv]
    exact iff_of_true nofun nofun
  case realerted hc => exact iff_of_true h (by simp [Current, hc])
  case poLocked hc | poAdded hc | received hc | noMatch hc | alreadyScanned hc | printFailed hc |
      failed hc | autoCleared hc =>
    exact iff_of_true nofun (by simp [Current, hc])
  case finish hc =>
    refine iff_of_true h ?_
    cases e <;> simp [callback, Current] at hc ⊢

-- In a run, every serial is matched against the purchase order of its model, whatever is scanned in
-- whatever state, exactly if no verdict or proposal is taken up that has been overtaken.
theorem matchesEstablished_iff_current {es : List UiEvent} :
    Trace.Always (Step py isDigit) MatchesEstablished .init es ↔
      Trace.Each (Step py isDigit) Current .init es := by
  refine Trace.always_iff_each (I := fun _ => True) (fun _ _ => trivial) (fun hs _ h => ?_) trivial
    (matchesEstablished_iff.mpr nofun)
  rw [matchesEstablished_iff]
  exact established_step_iff (moves_of_next hs.2) (matchesEstablished_iff.mp h)

-- While a barcode is resolved for one purchase order, another one is loaded. The verdict is applied
-- all the same.
def verdictAfterLoad : List (Ui → UiEvent) := [
  fun _ => .poSubmit "7,8",
  fun _ => .populated 0 (.ok ()),
  fun _ => .populated 0 (.ok ()),
  fun _ => .fire 0,
  fun _ => .scan "A",
  fun _ => .fire 0,
  resolves (.loaded [.unit "1" "7" "A"]) 0,
  fun _ => .fire 0
]

theorem not_matchesEstablished :
    ¬∀ (es : List UiEvent) (ui : Ui), Trace (Step .ascii Char.isDigit) .init es ui →
      ui.MatchesEstablished := by
  intro h
  have ⟨es, ui, ht, hs⟩ := runs_of_play .init verdictAfterLoad
    (f := fun ui => (ui.serialMatch? "S1", ui.notes.model.map (·.2.po)))
    (a := (some ("A", "S1", "8"), some "7"))
    (by simp [verdictAfterLoad, isBlank, isSpace]) (by decide +kernel)
  have ⟨hs, ho⟩ := Prod.mk.inj hs
  have hm := h es ui ht "S1" "A" "S1" "8" hs
  simp [hm] at ho

end ReceivingApp.Ui
