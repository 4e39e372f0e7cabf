import ReceivingApp.Theorems.Labels
import ReceivingApp.Theorems.UiSteps

open Interaction

namespace ReceivingApp

-- ### Texts that are kept as they are

theorem strip_eq_self {s : String} (h : ∀ c ∈ s.toList, isSpace c = false) : strip s = s := by
  have hdrop {l : List Char} (hl : ∀ c ∈ l, isSpace c = false) : l.dropWhile isSpace = l := by
    cases l
    case nil      => rfl
    case cons c l => exact List.dropWhile_cons_of_neg (by simp [hl c List.mem_cons_self])
  rw [strip, hdrop h, hdrop fun c hc => h c (List.mem_reverse.mp hc), List.reverse_reverse,
    String.ofList_toList]

theorem zplSafe_eq_self {s : String} (h : ∀ c ∈ s.toList, c ≠ '^' ∧ c ≠ '~' ∧ c ≠ '&') :
    zplSafe s = s := by
  have hcaret : s.toList.filter (· ≠ '^') = s.toList :=
    List.filter_eq_self.mpr fun c hc => decide_eq_true (h c hc).1
  have htilde : s.toList.filter (· ≠ '~') = s.toList :=
    List.filter_eq_self.mpr fun c hc => decide_eq_true (h c hc).2.1
  have hamp : s.toList.map (fun c => if c = '&' then '+' else c) = s.toList :=
    (List.map_congr_left fun c hc => if_neg (h c hc).2.2).trans (List.map_id _)
  rw [zplSafe, orEmpty, hcaret, htilde, hamp, String.ofList_toList]

-- ### The purchase orders that are accepted

-- The purchase order is among those of a text that is submitted.
def Ui.Accepts (isDigit : Char → Bool) (po : String) : Prop :=
  ∃ text, po ∈ poList isDigit text

variable {digits : PyDigits} {po : String}

-- Of the ASCII characters, a digit is none but the decimal ones.
theorem PyDigits.ne_of_isDigit {c a : Char} (h : digits.isDigit c) (ha : a.toNat < 128)
    (hd : a.isDigit = false) : c ≠ a := by
  rintro rfl
  rw [digits.isDigit_ascii c ha, hd] at h
  cases h

theorem all_isDigit_of_mem_poList {isDigit : Char → Bool} {text : String}
    (h : po ∈ Ui.poList isDigit text) : po.toList.all isDigit := by
  simp only [Ui.poList] at h
  split at h
  case isTrue hall => exact List.all_eq_true.mp hall po h
  case isFalse     => cases h

theorem strip_of_all_isDigit (h : po.toList.all digits.isDigit) : strip po = po :=
  strip_eq_self fun c hc => digits.isSpace_eq_false c (List.all_eq_true.mp h c hc)

-- What is accepted are the texts of digits, each of them by itself.
theorem accepts_iff :
    Ui.Accepts digits.isDigit po ↔ po ≠ "" ∧ po.toList.all digits.isDigit := by
  constructor
  case mp => exact fun ⟨text, h⟩ => ⟨Ui.ne_empty_of_mem_poList h, all_isDigit_of_mem_poList h⟩
  case mpr =>
    intro ⟨hne, hall⟩
    have hcomma : ',' ∉ po.toList := fun hc =>
      PyDigits.ne_of_isDigit (List.all_eq_true.mp hall _ hc) (by decide) rfl rfl
    have hsplit : ([','].intercalate [po.toList]).splitOn ',' = [po.toList] :=
      List.splitOn_intercalate ',' (by simpa using hcomma) (List.cons_ne_nil _ _)
    rw [List.intercalate_singleton] at hsplit
    refine ⟨po, ?_⟩
    simp [Ui.poList, strip_of_all_isDigit hall, hsplit, hne, hall]

-- ### What is printed

def poBarcode (po : String) : String :=
  "PO:" ++ po

theorem toList_poBarcode : (poBarcode po).toList = 'P' :: 'O' :: ':' :: po.toList :=
  String.toList_append

theorem forall_mem_poBarcode {P : Char → Prop} (h : Ui.Accepts digits.isDigit po)
    (hp : P 'P' ∧ P 'O' ∧ P ':') (hd : ∀ c, digits.isDigit c → P c) :
    ∀ c ∈ (poBarcode po).toList, P c := by
  have hdigit := List.all_eq_true.mp (accepts_iff.mp h).2
  simp only [toList_poBarcode, List.forall_mem_cons]
  exact ⟨hp.1, hp.2.1, hp.2.2, fun c hc => hd c (hdigit c hc)⟩

-- The sanitizer leaves digits alone, so that the barcode has the purchase order as it was entered.
theorem barcodes_of_accepts (h : Ui.Accepts digits.isDigit po) (today : Date) :
    Zpl.barcodes (buildPoZpl today po) = [poBarcode po] := by
  have hsafe : zplSafe (poBarcode po) = poBarcode po := by
    refine zplSafe_eq_self <| forall_mem_poBarcode h (by decide) fun c hc => ?_
    have hne {a : Char} := PyDigits.ne_of_isDigit (a := a) hc
    exact ⟨hne (by decide) rfl, hne (by decide) rfl, hne (by decide) rfl⟩
  rw [Zpl.barcodes_buildPoZpl]
  exact congrArg (fun text => [text]) hsafe

-- Nor is there anything to strip off.
theorem strip_poBarcode (h : Ui.Accepts digits.isDigit po) : strip (poBarcode po) = poBarcode po :=
  strip_eq_self <| forall_mem_poBarcode h (by decide) digits.isSpace_eq_false

-- ### How it is read

-- The number that is read off a label.
def scannedPo (barcode : String) : String :=
  strip (String.ofList (barcode.toList.drop 3))

theorem isPoLabel_poBarcode : isPoLabel (poBarcode po) := by
  rw [isPoLabel, toList_poBarcode]
  rfl

theorem scannedPo_poBarcode (h : Ui.Accepts digits.isDigit po) : scannedPo (poBarcode po) = po := by
  have hdrop : (poBarcode po).toList.drop 3 = po.toList := by
    rw [toList_poBarcode]
    rfl
  rw [scannedPo, hdrop, String.ofList_toList]
  exact strip_of_all_isDigit (accepts_iff.mp h).2

-- The states in which a label is not looked at.
def refusing : List String := ["MATCHING", "RESOLVING", "PROPOSE", "NEEDS_MODEL"]

section Dispatch

variable {state barcode : String} {hasCurrentPo hasResolver : Bool} {activePos : List String}

theorem decideScanActionIn_ne_poSwitch (h : state ∈ refusing) :
    decideScanActionIn state barcode hasCurrentPo hasResolver activePos ≠ .poSwitch po := by
  simp only [refusing, List.mem_cons, List.not_mem_nil, or_false] at h
  rcases h with rfl | rfl | rfl | rfl <;> simp [decideScanActionIn]

-- In all other states, labels come before models and serials.
theorem decideScanActionIn_poLabel (h : state ∉ refusing) (hb : isPoLabel barcode) :
    decideScanActionIn state barcode hasCurrentPo hasResolver activePos =
      if scannedPo barcode ∈ activePos then .poSwitch (scannedPo barcode)
      else .poNotLoaded (scannedPo barcode) := by
  simp only [refusing, List.mem_cons, List.not_mem_nil, or_false, not_or] at h
  obtain ⟨hm, hr, hp, hn⟩ := h
  rw [decideScanActionIn, if_neg (not_or.mpr ⟨hm, hr⟩), if_neg hp, if_neg hn, if_pos hb]
  rfl

end Dispatch

-- What is printed for a purchase order switches back to it once it is loaded, whatever else is
-- loaded, but in the states that refuse labels.
theorem poLabel_switches (digits : PyDigits) :
    (∀ po activePos state, Ui.Accepts digits.isDigit po → po ∈ activePos → state ∉ refusing →
      ∀ (today : Date), ∃ barcode, Zpl.barcodes (buildPoZpl today po) = [barcode] ∧
        ∀ hasCurrentPo hasResolver,
          decideScanActionIn state (strip barcode) hasCurrentPo hasResolver activePos =
            .poSwitch po) ∧
    (∀ state ∈ refusing, ∀ barcode hasCurrentPo hasResolver activePos po,
      decideScanActionIn state barcode hasCurrentPo hasResolver activePos ≠ .poSwitch po) := by
  constructor
  case left =>
    intro po activePos state hpo hmem hs today
    refine ⟨poBarcode po, barcodes_of_accepts hpo today, fun hasCurrentPo hasResolver => ?_⟩
    rw [strip_poBarcode hpo, decideScanActionIn_poLabel hs isPoLabel_poBarcode,
      scannedPo_poBarcode hpo, if_pos hmem]
  case right => exact fun state hs _ _ _ _ _ => decideScanActionIn_ne_poSwitch hs

theorem poLabel_switches_sample :
    ∃ barcode, Zpl.barcodes (buildPoZpl ⟨2026, 6, 19⟩ "10001") = [barcode] ∧
      ∀ hasCurrentPo hasResolver,
        decideScanActionIn "NO_MATCH" (strip barcode) hasCurrentPo hasResolver ["10002", "10001"] =
          .poSwitch "10001" :=
  (poLabel_switches .ascii).1 "10001" ["10002", "10001"] "NO_MATCH"
    (accepts_iff.mpr ⟨by decide, by decide⟩) (by decide) (by decide) ⟨2026, 6, 19⟩

-- ### Labels over runs

-- The purchase order that a callback adds, and the one that a thread loads.
def Callback.added? : Callback → Option String
  | addPo po => some po
  | _        => none

def Thread.loading? : Thread → Option String
  | runPopulate po => some po
  | _              => none

namespace Ui

variable {py : PyStd} {isDigit : Char → Bool} {ui ui' : Ui} {e : UiEvent} {es : List UiEvent}

-- All purchase orders that are loaded, or are going to be, have been accepted.
structure Entered (isDigit : Char → Bool) (ui : Ui) : Prop where
  pos       : ∀ po ∈ ui.activePos, Accepts isDigit po
  callbacks : ∀ c ∈ ui.callbacks, ∀ po ∈ c.added?, Accepts isDigit po
  threads   : ∀ t ∈ ui.threads, ∀ po ∈ t.loading?, Accepts isDigit po

namespace Entered

theorem init : Entered isDigit .init where
  pos _ h       := absurd h List.not_mem_nil
  callbacks _ h := absurd h List.not_mem_nil
  threads _ h   := absurd h List.not_mem_nil

-- A step that loads nothing.
theorem keep (h : ui.Entered isDigit) (ha : ui'.activePos = ui.activePos)
    (hc : ∀ c ∈ ui'.callbacks, c ∈ ui.callbacks ∨ c.added? = none)
    (ht : ∀ t ∈ ui'.threads, t ∈ ui.threads ∨ t.loading? = none) : ui'.Entered isDigit where
  pos := ha ▸ h.pos
  callbacks c m po hpo :=
    (hc c m).elim (fun hm => h.callbacks c hm po hpo) (fun hn => nomatch hn.symm.trans hpo)
  threads t m po hpo :=
    (ht t m).elim (fun hm => h.threads t hm po hpo) (fun hn => nomatch hn.symm.trans hpo)

theorem same (h : ui.Entered isDigit) (ha : ui'.activePos = ui.activePos)
    (hc : ui'.callbacks = ui.callbacks) (ht : ui'.threads = ui.threads) : ui'.Entered isDigit :=
  h.keep ha (fun _ hm => .inl (hc ▸ hm)) (fun _ hm => .inl (ht ▸ hm))

theorem queued (h : ui.Entered isDigit) {c : Callback} (hn : c.added? = none)
    (ha : ui'.activePos = ui.activePos) (hc : ui'.callbacks = ui.callbacks ++ [c])
    (ht : ui'.threads = ui.threads) : ui'.Entered isDigit := by
  refine h.keep ha (fun c' hm => ?_) (fun _ hm => .inl (ht ▸ hm))
  exact (List.mem_append.mp (hc ▸ hm)).imp_right fun hm => by rwa [List.mem_singleton.mp hm]

theorem started (h : ui.Entered isDigit) {t : Thread} (hn : t.loading? = none)
    (ha : ui'.activePos = ui.activePos) (hc : ui'.callbacks = ui.callbacks)
    (ht : ui'.threads = ui.threads ++ [t]) : ui'.Entered isDigit := by
  refine h.keep ha (fun _ hm => .inl (hc ▸ hm)) (fun t' hm => ?_)
  exact (List.mem_append.mp (ht ▸ hm)).imp_right fun hm => by rwa [List.mem_singleton.mp hm]

theorem dequeue (h : ui.Entered isDigit) (i : Nat) : (ui.dequeue i).Entered isDigit :=
  h.keep rfl (fun _ hm => .inl (List.mem_of_mem_eraseIdx hm)) (fun _ => .inl)

theorem onPoSubmit (h : ui.Entered isDigit) (text : String) :
    (ui.onPoSubmit isDigit text).Entered isDigit := by
  rw [onPoSubmit_eq]
  refine ⟨h.pos, h.callbacks, fun t hm po hpo => ?_⟩
  rcases List.mem_append.mp hm with hm | hm
  case inl => exact h.threads t hm po hpo
  case inr =>
    obtain ⟨po', hmem, rfl⟩ := List.mem_map.mp hm
    cases hpo
    exact ⟨text, hmem⟩

theorem addPo (h : ui.Entered isDigit) {po : String} (hpo : Accepts isDigit po) :
    (ui.addPo po).Entered isDigit := by
  refine ⟨fun po' hm => ?_, h.callbacks, h.threads⟩
  simp only [Ui.addPo, setIdle, hideManualEntry] at hm
  split at hm
  case isTrue => exact h.pos po' hm
  case isFalse =>
    rcases List.mem_append.mp hm with hm | hm
    case inl => exact h.pos po' hm
    case inr => exact List.mem_singleton.mp hm ▸ hpo

-- What a thread queues at its end loads what the thread has loaded.
theorem finish (h : ui.Entered isDigit) {i : Nat} {t : Thread} {cs : List Callback}
    (ht : ui.threads[i]? = some t) (hc : callback t e = some cs) :
    Entered isDigit { ui with
      threads   := ui.threads.eraseIdx i
      callbacks := ui.callbacks ++ cs
    } := by
  have hadded (c : Callback) (hm : c ∈ cs) (po : String) (hpo : po ∈ c.added?) :
      po ∈ t.loading? := by
    unfold callback at hc
    split at hc <;> cases hc
    all_goals simp_all [Callback.added?, Thread.loading?]
  refine ⟨h.pos, fun c hm po hpo => ?_, fun t' hm => h.threads t' (List.mem_of_mem_eraseIdx hm)⟩
  rcases List.mem_append.mp hm with hm | hm
  case inl => exact h.callbacks c hm po hpo
  case inr => exact h.threads t (List.mem_of_getElem? ht) po (hadded c hm po hpo)

theorem moves (hm : ui.Moves e ui') (he : ∀ text, e ≠ .poSubmit text) (h : ui.Entered isDigit) :
    ui'.Entered isDigit := by
  cases hm
  case poSubmit => exact absurd rfl (he _)
  case ignored | undismissed | unshown => exact h
  case turnstile => exact h.queued (c := .handleProposeScan _) rfl rfl rfl rfl
  case realert   => exact h.queued (c := .handleNeedsModelScan) rfl rfl rfl rfl
  case poSwitch  => exact h.queued (c := .lockPo _) rfl rfl rfl rfl
  case resolve   => exact h.started (t := .runResolution _ _) rfl rfl rfl rfl
  case serialMatch | manualSubmit | formOffPo =>
    exact h.started (t := .runMatch _ _ _) rfl rfl rfl rfl
  case dismissed | syncDismissed | reset | showManual | cancelManual | manualRefused | formBlank |
      formNoPo | formRaises | formOnPo =>
    exact h.same rfl rfl rfl
  case poAdded i po hc =>
    exact (h.dequeue i).addPo (h.callbacks _ (List.mem_of_getElem? hc) po rfl)
  case received i _ _ | alreadyScanned i _ _ =>
    exact (h.dequeue i).queued (c := .autoClear _) rfl rfl rfl rfl
  case confirmed i _ _ _ | unconfirmed i _ _ _ | realerted i _ | poLocked i _ _ |
      verdictAuto i _ _ _ _ _ | verdictPropose i _ _ _ _ _ | verdictNeedsModel i _ _ _ _ _ |
      noMatch i _ _ | printFailed i _ _ | failed i _ | autoCleared i _ _ =>
    exact (h.dequeue i).same rfl rfl rfl
  case finish ht hc => exact h.finish ht hc

theorem step (hs : Step py isDigit ui e ui') (h : ui.Entered isDigit) : ui'.Entered isDigit := by
  cases e
  case poSubmit text =>
    have hn : ui.onPoSubmit isDigit text = ui' := Option.some.inj hs.2
    exact hn ▸ h.onPoSubmit text
  all_goals exact h.moves (moves_of_next hs.2) nofun

end Entered

theorem dequeue_after (c : Callback) : (ui.after c).dequeue ui.callbacks.length = ui := by
  have hc : (ui.callbacks ++ [c]).eraseIdx ui.callbacks.length = ui.callbacks := by
    rw [List.eraseIdx_append_of_length_le (Nat.le_refl _), Nat.sub_self, List.eraseIdx_cons_zero,
      List.append_nil]
  rw [after, dequeue, hc]

theorem entered_of_runs (hr : Trace (Step py isDigit) .init es ui) : ui.Entered isDigit :=
  hr.invariant Entered.step .init

-- In the UI, the label of a purchase order that has been loaded can be scanned whenever no block and
-- no operation is in the way, and the UI is then locked to the purchase order.
theorem runs_poLabel (hr : Trace (Step py digits.isDigit) .init es ui) (hpo : po ∈ ui.activePos)
    (hs : ui.state.name ∉ refusing) (today : Date) :
    ∃ barcode, Zpl.barcodes (buildPoZpl today po) = [barcode] ∧
      ∃ ui', Trace (Step py digits.isDigit) ui [.scan barcode, .fire ui.callbacks.length] ui' ∧
        ui'.currentPo = po ∧ ui'.state = .idle := by
  have haccepts : Accepts digits.isDigit po := (entered_of_runs hr).pos po hpo
  refine ⟨poBarcode po, barcodes_of_accepts haccepts today, lockPo po ui, ?_, rfl, rfl⟩
  have hscan : ui.onScan (poBarcode po) = ui.after (.lockPo po) := by
    rw [onScan, strip_poBarcode haccepts, ← decideScanActionIn_name,
      decideScanActionIn_poLabel hs isPoLabel_poBarcode, scannedPo_poBarcode haccepts, if_pos hpo]
  refine .cons ⟨?_, congrArg some hscan⟩ <| .single ⟨trivial, next_fire_eq_some_iff.mpr ?_⟩
  case refine_1 =>
    show isBlank (poBarcode po) = false
    rw [isBlank, toList_poBarcode]
    rfl
  case refine_2 => exact ⟨.lockPo po, by simp [after], congrArg (lockPo po) (dequeue_after _)⟩

end Ui

end ReceivingApp
