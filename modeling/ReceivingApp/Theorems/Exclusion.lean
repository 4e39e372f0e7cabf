import ReceivingApp.Theorems.UiSteps

open Interaction

namespace ReceivingApp

-- ### Unfinished operations

def Thread.isOperation : Thread → Bool
  | runPopulate _ => false
  | _             => true

-- Where an operation has raised, its result is to go back to IDLE.
def Callback.isResult : Callback → Bool
  | applyVerdict .. | applyOutcome _ | setIdle => true
  | _                                          => false

namespace Ui

variable {py : PyStd} {isDigit : Char → Bool} {ui ui' : Ui} {e : UiEvent}

-- The resolutions and matches that have been started and whose results are not yet applied.
def unfinished (ui : Ui) : Nat :=
  ui.threads.countP Thread.isOperation + ui.callbacks.countP Callback.isResult

def Busy (ui : Ui) : Prop :=
  ui.state = .resolving ∨ ui.state = .matching

structure Exclusive (ui : Ui) : Prop where
  one     : ui.unfinished ≤ 1
  busy    : 0 < ui.unfinished → ui.Busy
  dropped : 0 < ui.unfinished → ∀ barcode hasPo hasResolver,
    decideScanAction ui.state barcode hasPo hasResolver ui.activePos = .dropBusy

-- The events that change the state, or start an operation, whatever is under way.
def Interferes (ui : Ui) : UiEvent → Prop
  | .reset => True
  | .manualSubmit model _ => strip model ≠ "" ∧ ui.currentPo ≠ ""
  | .needsModelSubmit model onPo => strip model = "" ∨ ui.currentPo = "" ∨ ∃ b, onPo = .ok b
  | .fire i =>
    match ui.callbacks[i]? with
    | some (.lockPo _) | some (.addPo _) | some (.autoClear _) => True
    | some (.handleProposeScan barcode) => ui.pendingBarcode = some barcode
    | _ => False
  | _ => False

-- While an operation is unfinished, nothing interferes with it.
def Steady (ui : Ui) (e : UiEvent) : Prop :=
  0 < ui.unfinished → ¬ui.Interferes e

theorem Exclusive.ofBusy (h₁ : ui.unfinished ≤ 1) (h₂ : 0 < ui.unfinished → ui.Busy) :
    ui.Exclusive :=
  ⟨h₁, h₂, fun h _ _ _ => decideScanAction_busy (h₂ h)⟩

theorem exclusive_iff_of_busy (h : ui.Busy) : ui.Exclusive ↔ ui.unfinished ≤ 1 :=
  ⟨Exclusive.one, fun h₁ => .ofBusy h₁ fun _ => h⟩

theorem exclusive_iff_of_not_busy (h : ¬ui.Busy) : ui.Exclusive ↔ ui.unfinished = 0 := by
  constructor
  case mp  => exact fun h' => Nat.eq_zero_of_not_pos fun hp => h (h'.busy hp)
  case mpr => exact fun h' => .ofBusy (by omega) (by omega)

theorem exclusive_congr (hs : ui'.state = ui.state) (hu : ui'.unfinished = ui.unfinished) :
    ui'.Exclusive ↔ ui.Exclusive := by
  by_cases h : ui.Busy
  case pos =>
    have h' : ui'.Busy := by rwa [Busy, hs]
    rw [exclusive_iff_of_busy h, exclusive_iff_of_busy h', hu]
  case neg =>
    have h' : ¬ui'.Busy := by rwa [Busy, hs]
    rw [exclusive_iff_of_not_busy h, exclusive_iff_of_not_busy h', hu]

-- ### Counting

section Count

variable {α : Type} {p : α → Bool} {l : List α} {a : α} {i : Nat}

theorem countP_eraseIdx_add (h : l[i]? = some a) :
    (l.eraseIdx i).countP p + (if p a then 1 else 0) = l.countP p := by
  obtain ⟨hi, rfl⟩ := List.getElem?_eq_some_iff.mp h
  rw [← (List.getElem_cons_eraseIdx_perm hi).countP_eq, List.countP_cons]

end Count

theorem unfinished_start {t : Thread} (h : t.isOperation) :
    (ui.start t).unfinished = ui.unfinished + 1 := by
  simp only [unfinished, start, List.countP_append, List.countP_singleton, h, if_true]
  omega

theorem unfinished_after {c : Callback} (h : c.isResult = false) :
    (ui.after c).unfinished = ui.unfinished := by
  simp [unfinished, after, List.countP_append, h]

-- Without a callback there is what was there without it.
theorem unfinished_dequeue {i : Nat} {c : Callback} (h : ui.callbacks[i]? = some c) :
    (ui.dequeue i).unfinished + (if c.isResult then 1 else 0) = ui.unfinished := by
  have hc := countP_eraseIdx_add (p := Callback.isResult) h
  simp only [unfinished, dequeue]
  omega

-- A thread that ends leaves its result.
theorem unfinished_finish {i : Nat} {t : Thread} {cs : List Callback} (h : ui.threads[i]? = some t)
    (hc : callback t e = some cs) :
    unfinished { ui with threads := ui.threads.eraseIdx i, callbacks := ui.callbacks ++ cs } =
      ui.unfinished := by
  have ht := countP_eraseIdx_add (p := Thread.isOperation) h
  have hcs : cs.countP Callback.isResult = if t.isOperation then 1 else 0 := by
    unfold callback at hc
    split at hc <;> cases hc <;> rfl
  simp only [unfinished, List.countP_append, hcs]
  omega

-- ### Steps

theorem not_busy_setIdle : ¬ui.setIdle.Busy := by
  simp [Busy, setIdle]

-- A step that does not interfere and keeps state and number.
theorem steady_iff_of_same (h : ui.Exclusive) (hs : ui'.state = ui.state)
    (hu : ui'.unfinished = ui.unfinished) (hn : ¬ui.Interferes e) :
    ui'.Exclusive ↔ ui.Steady e :=
  iff_of_true ((exclusive_congr hs hu).mpr h) fun _ => hn

-- A step that interferes, and keeps the number or adds to it.
theorem steady_iff_of_leaves (hs : ¬ui'.Busy) (hu : ui'.unfinished = ui.unfinished)
    (hi : ui.Interferes e) : ui'.Exclusive ↔ ui.Steady e := by
  rw [exclusive_iff_of_not_busy hs, hu]
  exact ⟨fun h hp => by omega, fun h => Nat.eq_zero_of_not_pos fun hp => h hp hi⟩

theorem steady_iff_of_starts (hs : ui'.Busy) (hu : ui'.unfinished = ui.unfinished + 1)
    (hi : ui.Interferes e) : ui'.Exclusive ↔ ui.Steady e := by
  rw [exclusive_iff_of_busy hs, hu]
  constructor
  case mp  => exact fun h hp => by omega
  case mpr =>
    intro h
    have hz : ui.unfinished = 0 := Nat.eq_zero_of_not_pos fun hp => h hp hi
    omega

-- A step in a state in which nothing is under way.
theorem steady_iff_of_free (h : ui.Exclusive) (hs : ¬ui.Busy)
    (h' : ui.unfinished = 0 → ui'.Exclusive) : ui'.Exclusive ↔ ui.Steady e := by
  have hz := (exclusive_iff_of_not_busy hs).mp h
  exact iff_of_true (h' hz) fun hp => by omega

theorem unfinished_resolve {cleaned : String} :
    (ui.resolve cleaned).unfinished = ui.unfinished + 1 :=
  unfinished_start (by rfl)

theorem unfinished_serialMatch {serial : String} :
    (ui.serialMatch serial).unfinished = ui.unfinished + 1 :=
  unfinished_start (by rfl)

-- A result that is applied is that of the only operation under way.
theorem steady_iff_of_result {i : Nat} {c : Callback} (hc : ui.callbacks[i]? = some c)
    (hr : c.isResult) (h : ui.Exclusive) (hu : ui'.unfinished = (ui.dequeue i).unfinished)
    (hn : ¬ui.Interferes (.fire i)) : ui'.Exclusive ↔ ui.Steady (.fire i) := by
  have he := unfinished_dequeue hc
  rw [if_pos hr] at he
  have hz : ui'.unfinished = 0 := by have := h.one; omega
  exact iff_of_true (.ofBusy (by omega) (by omega)) fun _ => hn

-- A step keeps operations exclusive exactly if it does not interfere with one.
theorem exclusive_step_iff (hm : ui.Moves e ui') (h : ui.Exclusive) :
    ui'.Exclusive ↔ ui.Steady e := by
  cases hm
  case ignored | undismissed | unshown | showManual | cancelManual =>
    exact steady_iff_of_same h rfl rfl id
  case turnstile | realert | poSwitch => exact steady_iff_of_same h rfl (unfinished_after rfl) id
  case poSubmit pos _ =>
    refine steady_iff_of_same h rfl ?_ id
    simp [unfinished, List.countP_append, List.countP_map, Function.comp_def, Thread.isOperation]
  case resolve hs _ =>
    have hb : ¬ui.Busy := by rcases hs with hs | hs <;> simp [Busy, hs]
    exact steady_iff_of_free h hb fun hz =>
      (exclusive_iff_of_busy (.inl rfl)).mpr (Nat.le_of_eq (by rw [unfinished_resolve, hz]))
  case serialMatch hs =>
    exact steady_iff_of_free h (by simp [Busy, hs]) fun hz =>
      (exclusive_iff_of_busy (.inr rfl)).mpr (Nat.le_of_eq (by rw [unfinished_serialMatch, hz]))
  case dismissed hs =>
    have hb : ¬ui.Busy := by
      rintro (hb | hb) <;> simp [Dismissable, hb] at hs
    exact steady_iff_of_free h hb fun hz => (exclusive_iff_of_not_busy not_busy_setIdle).mpr hz
  case syncDismissed hs =>
    exact steady_iff_of_free h (by simp [Busy, hs]) fun hz =>
      (exclusive_iff_of_not_busy not_busy_setIdle).mpr hz
  case reset => exact steady_iff_of_leaves not_busy_setIdle rfl trivial
  -- The forms.
  case manualRefused hr => exact steady_iff_of_same h rfl rfl fun hi => hr.elim hi.1 hi.2
  case manualSubmit hm hpo =>
    exact steady_iff_of_starts (.inr rfl) (unfinished_start (by rfl)) ⟨hm, hpo⟩
  case formBlank hm  => exact steady_iff_of_leaves (by simp [Busy, setNeedsModel]) rfl (.inl hm)
  case formNoPo hpo  => exact steady_iff_of_leaves not_busy_setIdle rfl (.inr (.inl hpo))
  case formRaises hm hpo => exact steady_iff_of_same h rfl rfl (by simp [Interferes, hm, hpo])
  case formOnPo =>
    exact steady_iff_of_leaves (by simp [Busy, enterMidScan, setMidScan]) rfl
      (.inr (.inr ⟨true, rfl⟩))
  case formOffPo =>
    exact steady_iff_of_starts (.inr rfl) (unfinished_start (by rfl)) (.inr (.inr ⟨false, rfl⟩))
  -- The callbacks that are no results.
  case confirmed hc hb =>
    exact steady_iff_of_leaves (by simp [Busy, enterMidScan, setMidScan]) (unfinished_dequeue hc)
      (by simpa [Interferes, hc] using hb)
  case unconfirmed hc hb =>
    exact steady_iff_of_same h rfl (unfinished_dequeue hc) (by simpa [Interferes, hc] using hb)
  case realerted hc =>
    exact steady_iff_of_same h rfl (unfinished_dequeue hc) (by simp [Interferes, hc])
  case poLocked hc | poAdded hc | autoCleared hc =>
    exact steady_iff_of_leaves not_busy_setIdle (unfinished_dequeue hc) (by simp [Interferes, hc])
  -- The results.
  case verdictAuto hc _ | verdictPropose hc _ | verdictNeedsModel hc _ | noMatch hc |
      printFailed hc | failed hc =>
    exact steady_iff_of_result hc rfl h rfl (by simp [Interferes, hc])
  case received hc | alreadyScanned hc =>
    exact steady_iff_of_result hc rfl h (unfinished_after rfl) (by simp [Interferes, hc])
  case finish ht hc =>
    refine steady_iff_of_same h rfl (unfinished_finish ht hc) ?_
    cases e <;> simp [callback, Interferes] at hc ⊢

-- In a run, operations are exclusive in all states exactly if no step interferes with one.
theorem exclusive_iff_steady {es : List UiEvent} :
    Trace.Always (Step py isDigit) Exclusive .init es ↔
      Trace.Each (Step py isDigit) Steady .init es :=
  Trace.always_iff_each (I := fun _ => True) (fun _ _ => trivial)
    (fun hs _ h => exclusive_step_iff (moves_of_next hs.2) h) trivial
    (.ofBusy (Nat.zero_le _) fun h => absurd h (Nat.lt_irrefl 0))

-- A second purchase order is loaded while a barcode is being resolved.
def loadDuringResolution : List (Ui → UiEvent) := [
  fun _ => .poSubmit "7,8",
  fun _ => .populated 0 (.ok ()),
  fun _ => .fire 0,
  fun _ => .scan "A",
  fun _ => .populated 0 (.ok ()),
  fun _ => .fire 0
]

theorem not_exclusive :
    ¬∀ (es : List UiEvent) (ui : Ui), Trace (Step .ascii Char.isDigit) .init es ui →
      ui.Exclusive := by
  intro h
  have ⟨es, ui, ht, hs⟩ := runs_of_play .init loadDuringResolution
    (f := fun ui => (ui.state, ui.unfinished)) (a := (.idle, 1))
    (by simp [loadDuringResolution, isBlank, isSpace]) (by decide +kernel)
  have ⟨hs, hu⟩ := Prod.mk.inj hs
  have hb := (h es ui ht).busy (by omega)
  simp [Busy, hs] at hb

end Ui
end ReceivingApp
