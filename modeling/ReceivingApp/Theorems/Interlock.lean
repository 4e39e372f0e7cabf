import ReceivingApp.Theorems.Runs
import ReceivingApp.Theorems.UiSteps

open Interaction

namespace ReceivingApp

def Callback.armedIn : Callback → Option Nat
  | autoClear cycle => some cycle
  | _               => none

-- The state a verdict leads to.
def ScanVerdict.state : ScanVerdict → UiState
  | auto       => .midScan
  | propose    => .propose
  | needsModel => .needsModel

namespace Ui

variable {py : PyStd} {isDigit : Char → Bool} {ui ui' ui'' : Ui} {e : UiEvent}

-- ### The interlock

def Blocked (ui : Ui) : Prop :=
  ui.state = .midScan ∨ ui.state = .propose ∨ ui.state = .needsModel

-- What the operator does to leave such a state, with the loads and switches of purchase orders.
def Aimed (ui : Ui) : UiEvent → Prop
  | .scan barcode         => ui.state = .midScan ∧ isPoLabel (strip barcode) = false
  | .dismiss              => ui.state = .propose ∨ ui.state = .needsModel
  | .reset                => True
  | .manualSubmit model _ => strip model ≠ "" ∧ ui.currentPo ≠ ""
  | .needsModelSubmit ..  => True
  | .fire i =>
    match ui.callbacks[i]? with
    | some (.lockPo _) | some (.addPo _) => True
    | some (.handleProposeScan barcode)  => ui.state = .propose ∧ ui.pendingBarcode = some barcode
    | _ => False
  | _ => False

-- An interlocked state is still there, with the model of MID_SCAN.
structure Kept (ui ui' : Ui) : Prop where
  state : ui.Blocked → ui'.state = ui.state
  model : ui.state = .midScan → ui'.modelScan = ui.modelScan

-- An auto-clear is to be called that was armed before the present scan cycle.
def ClearsLate (ui : Ui) : UiEvent → Prop
  | .fire i => ∃ cycle < ui.notes.cycle, ui.callbacks[i]?.bind Callback.armedIn = some cycle
  | _       => False

def Harmless (isDigit : Char → Bool) (ui : Ui) (e : UiEvent) : Prop :=
  ui.ClearsLate e → ∀ ui', ui.next isDigit e = some ui' →
    ui'.state = ui.state ∧ ui'.modelScan = ui.modelScan

structure Interlock (py : PyStd) (isDigit : Char → Bool) (es : List UiEvent) : Prop where
  kept    : Trace.Unless (Step py isDigit) Aimed Kept .init es
  cleared : Trace.Each (Step py isDigit) (Harmless isDigit) .init es

-- The callbacks that leave an interlocked state without the operator, or change its model.
def Breaks (ui : Ui) : UiEvent → Prop
  | .fire i =>
    match ui.callbacks[i]? with
    | some .setIdle | some (.autoClear _) | some (.applyOutcome _) => ui.Blocked
    | some (.applyVerdict _ result _) =>
      ui.Blocked ∧ (ui.state ≠ result.verdict.state ∨
        result.verdict = .auto ∧ ui.modelScan ≠ result.model)
    | some (.handleProposeScan barcode) =>
      ui.pendingBarcode = some barcode ∧ ui.state ≠ .propose ∧
        ui.Blocked ∧ (ui.state ≠ .midScan ∨ ui.modelScan ≠ some (orEmpty ui.proposedModel))
    | _ => False
  | _ => False

-- None of them is called, and an auto-clear of an earlier cycle in IDLE only.
def Calm (ui : Ui) (e : UiEvent) : Prop :=
  ¬ui.Breaks e ∧ (ui.ClearsLate e → ui.state = .idle)

-- ### Steps

namespace Kept

theorem refl (ui : Ui) : Kept ui ui :=
  ⟨fun _ => rfl, fun _ => rfl⟩

theorem trans (h : Kept ui ui') (h' : Kept ui' ui'') : Kept ui ui'' where
  state hb :=
    have hs := h.state hb
    (h'.state (by rwa [Blocked, hs])).trans hs
  model hs :=
    have hs' : ui'.state = .midScan := (h.state (.inl hs)).trans hs
    (h'.model hs').trans (h.model hs)

theorem ofSame (hs : ui'.state = ui.state) (hm : ui'.modelScan = ui.modelScan) : Kept ui ui' :=
  ⟨fun _ => hs, fun _ => hm⟩

theorem ofFree (h : ¬ui.Blocked) : Kept ui ui' :=
  ⟨fun hb => absurd hb h, fun hs => absurd (.inl hs) h⟩

end Kept

-- A step that leads out of the interlocked states.
theorem kept_iff_of_free (h : ¬ui'.Blocked) : Kept ui ui' ↔ ¬ui.Blocked := by
  constructor
  case mp =>
    intro hk hb
    exact h (by rwa [Blocked, hk.state hb])
  case mpr => exact .ofFree

-- A step that leads into one of them.
theorem kept_iff_of_enters (state : UiState) (hs : ui'.state = state) (hn : state ≠ .midScan) :
    Kept ui ui' ↔ ¬(ui.Blocked ∧ ui.state ≠ state) := by
  constructor
  case mp  => exact fun hk ⟨hb, hne⟩ => hne ((hk.state hb).symm.trans hs)
  case mpr =>
    intro h
    have he (hb : ui.Blocked) : ui.state = state := not_not.mp fun hne => h ⟨hb, hne⟩
    exact ⟨fun hb => hs.trans (he hb).symm, fun hm => absurd ((he (.inl hm)).symm.trans hm) hn⟩

theorem kept_iff_of_midScan (model : Option String) (hs : ui'.state = .midScan)
    (hm : ui'.modelScan = model) :
    Kept ui ui' ↔ ¬(ui.Blocked ∧ (ui.state ≠ .midScan ∨ ui.modelScan ≠ model)) := by
  constructor
  case mp =>
    rintro hk ⟨hb, hne⟩
    have he : ui.state = .midScan := (hk.state hb).symm.trans hs
    exact hne.elim (fun hne => hne he) fun hne => hne ((hk.model he).symm.trans hm)
  case mpr =>
    intro h
    have he (hb : ui.Blocked) : ui.state = .midScan ∧ ui.modelScan = model := by
      by_contra hne
      exact h ⟨hb, not_and_or.mp hne⟩
    exact ⟨fun hb => hs.trans (he hb).1.symm, fun hb => hm.trans (he (.inl hb)).2.symm⟩

theorem not_blocked_setIdle : ¬ui.setIdle.Blocked := by
  simp [Blocked, setIdle]

-- A step that nobody aims keeps the interlock exactly if it does not break it.
theorem kept_step_iff (hm : ui.Moves e ui') (ha : ¬ui.Aimed e) : Kept ui ui' ↔ ¬ui.Breaks e := by
  cases hm
  case ignored | undismissed | unshown | showManual | cancelManual | turnstile | realert |
      poSwitch | poSubmit | manualRefused =>
    exact iff_of_true (.ofSame rfl rfl) id
  case resolve hs _ =>
    exact iff_of_true (.ofFree (by rcases hs with hs | hs <;> simp [Blocked, hs])) id
  case serialMatch hl hs => exact absurd ⟨hs, hl⟩ ha
  case dismissed hs =>
    refine iff_of_true (.ofFree ?_) id
    rintro (hb | hb)
    · simp [Dismissable, hb] at hs
    · exact ha hb
  case syncDismissed hs => exact iff_of_true (.ofFree (by simp [Blocked, hs])) id
  case reset | formBlank | formNoPo | formRaises | formOnPo | formOffPo => exact absurd trivial ha
  case manualSubmit hm hpo => exact absurd ⟨hm, hpo⟩ ha
  case poLocked hc | poAdded hc => exact absurd (by simp [Aimed, hc]) ha
  case confirmed hc hb =>
    have hn : ui.state ≠ .propose := fun hs => ha (by simp [Aimed, hc, hs, hb])
    refine (kept_iff_of_midScan (some (orEmpty ui.proposedModel)) rfl rfl).trans ?_
    simp [Breaks, hc, hb, hn]
  case unconfirmed hc hb => exact iff_of_true (.ofSame rfl rfl) (by simp [Breaks, hc, hb])
  case realerted hc      => exact iff_of_true (.ofSame rfl rfl) (by simp [Breaks, hc])
  case verdictAuto result _ hc hv =>
    refine (kept_iff_of_midScan result.model rfl rfl).trans ?_
    simp [Breaks, hc, hv, ScanVerdict.state]
  case verdictPropose hc hv =>
    refine (kept_iff_of_enters .propose rfl (by decide)).trans ?_
    simp [Breaks, hc, hv, ScanVerdict.state]
  case verdictNeedsModel hc hv =>
    refine (kept_iff_of_enters .needsModel rfl (by decide)).trans ?_
    simp [Breaks, hc, hv, ScanVerdict.state]
  case received hc | noMatch hc | alreadyScanned hc | printFailed hc =>
    refine (kept_iff_of_free ?_).trans (by simp [Breaks, hc])
    simp [Blocked, setMatchFound, setNoMatch, setAlreadyScanned, setPrintFailed, after]
  case failed hc | autoCleared hc =>
    exact (kept_iff_of_free not_blocked_setIdle).trans (by simp [Breaks, hc])
  case finish hc =>
    refine iff_of_true (.ofSame rfl rfl) ?_
    cases e <;> simp [callback, Breaks] at hc ⊢

theorem not_aimed_of_breaks (h : ui.Breaks e) : ¬ui.Aimed e := by
  cases e
  case fire i =>
    simp only [Breaks, Aimed] at h ⊢
    cases hc : ui.callbacks[i]? with
    | none   => simp
    | some c => cases c <;> simp_all
  all_goals exact h.elim

-- In IDLE there is no model.
def Cleared (ui : Ui) : Prop :=
  ui.state = .idle → ui.modelScan = none

theorem Cleared.step (hm : ui.Moves e ui') (h : ui.Cleared) : ui'.Cleared := by
  cases hm
  case resolve | serialMatch | manualSubmit | formBlank | formOnPo | formOffPo | confirmed |
      verdictAuto | verdictPropose | verdictNeedsModel | received | noMatch | alreadyScanned |
      printFailed =>
    exact nofun
  case dismissed | syncDismissed | reset | formNoPo | poLocked | poAdded | failed | autoCleared =>
    exact fun _ => rfl
  all_goals exact h

-- An auto-clear leaves state and model alone exactly in IDLE.
theorem harmless_iff (h : ui.Cleared) :
    ui.Harmless isDigit e ↔ (ui.ClearsLate e → ui.state = .idle) := by
  refine imp_congr_right fun hl => ?_
  cases e
  case fire i =>
    obtain ⟨k, _, hk⟩ := hl
    obtain ⟨c, hc, ha⟩ := Option.bind_eq_some_iff.mp hk
    cases c
    case autoClear =>
      constructor
      case mp =>
        intro h'
        exact (h' _ (by simp only [next, hc]; rfl)).1.symm
      case mpr =>
        intro hs ui' hn
        have hui : ui' = setIdle { ui with callbacks := ui.callbacks.eraseIdx i } := by
          simpa [next, hc, invoke] using hn.symm
        subst hui
        exact ⟨hs.symm, (h hs).symm⟩
    all_goals cases ha
  all_goals exact hl.elim

-- In a run, the interlocked states are only left by what is aimed at them, and no auto-clear of an
-- earlier cycle changes anything, exactly if every step is calm.
theorem interlock_iff_calm {es : List UiEvent} :
    Interlock py isDigit es ↔ Trace.Each (Step py isDigit) Calm .init es := by
  have hk : Trace.Unless (Step py isDigit) Aimed Kept .init es ↔
      Trace.Each (Step py isDigit) (fun ui e => ¬ui.Breaks e) .init es := by
    refine (Trace.unless_iff_each (I := fun _ => True) (C := fun ui e => ¬ui.Breaks e) Kept.refl
      Kept.trans (fun _ _ => trivial) (fun hs _ ha => ?_) trivial).trans ?_
    case refine_1 => exact kept_step_iff (moves_of_next hs.2) ha
    refine Trace.each_congr (I := fun _ => True) (fun _ _ => trivial) (fun _ _ => ?_) trivial
    exact ⟨fun h hb => h (not_aimed_of_breaks hb) hb, fun h _ => h⟩
  have hc : Trace.Each (Step py isDigit) (Harmless isDigit) .init es ↔
      Trace.Each (Step py isDigit) (fun ui e => ui.ClearsLate e → ui.state = .idle) .init es :=
    Trace.each_congr (I := Cleared) (fun hs h => h.step (moves_of_next hs.2))
      (fun _ h => harmless_iff h) (fun _ => rfl)
  unfold Calm
  rw [Trace.each_and_iff, ← hk, ← hc]
  exact ⟨fun h => ⟨h.kept, h.cleared⟩, fun ⟨hk, hc⟩ => ⟨hk, hc⟩⟩

-- A unit is received by manual entry. Before its banner is cleared, a barcode is scanned for which
-- there is no model.
def scanBeforeClear : List (Ui → UiEvent) := [
  fun _ => .poSubmit "7",
  fun _ => .populated 0 (.ok ()),
  fun _ => .fire 0,
  fun _ => .showManual,
  fun _ => .manualSubmit "A" "S1",
  completes ⟨.loaded [.unit "1" "7" "A"], [], []⟩ .sample 0,
  fun _ => .fire 0,
  fun _ => .scan "B",
  resolves (.loaded [.unit "1" "7" "A"]) 0,
  fun _ => .fire 1
]

theorem not_interlock : ¬∀ es, Interlock .ascii Char.isDigit es := by
  intro h
  have ⟨es, ui, ht, hs⟩ := runs_of_play .init scanBeforeClear
    (f := fun ui => (ui.state, (ui.callbacks[0]?.bind Callback.armedIn, ui.notes.cycle),
      (ui.next Char.isDigit (.fire 0)).map (·.state)))
    (a := (.needsModel, (some 1, 2), some .idle))
    (by simp [scanBeforeClear, isBlank, isSpace]) (by decide +kernel)
  obtain ⟨hs, ⟨hk, hc⟩, hn⟩ := by simpa only [Prod.mk.injEq] using hs
  obtain ⟨ui', hui, hi⟩ := Option.map_eq_some_iff.mp hn
  have hl : ui.ClearsLate (.fire 0) := ⟨1, by omega, hk⟩
  have hc := (h (es ++ [.fire 0])).cleared es (.fire 0) [] ui ui' rfl ht ⟨trivial, hui⟩ hl ui' hui
  simp [hs, hi] at hc

end Ui
end ReceivingApp
