import ReceivingApp.Theorems.UiSteps

open Interaction

namespace ReceivingApp

-- ### Purchase orders

-- The purchase orders that callbacks and threads carry are not empty.
def Callback.Named : Callback → Prop
  | addPo po | lockPo po => po ≠ ""
  | _                    => True

def Thread.Named : Thread → Prop
  | runPopulate po | runMatch _ _ po => po ≠ ""
  | runResolution ..                 => True

def Callback.ForPo : Callback → Prop
  | addPo _ | lockPo _ => True
  | _                  => False

def Thread.ForPo : Thread → Prop
  | runPopulate _ => True
  | _             => False

namespace Ui

variable {py : PyStd} {isDigit : Char → Bool} {ui ui' : Ui} {e : UiEvent}

-- Nothing has happened yet but submissions of purchase orders.
structure Fresh (ui : Ui) : Prop where
  state      : ui.state = .idle
  manual     : ui.manualPlaced = false
  needsModel : ui.needsModelPlaced = false
  callbacks  : ∀ c ∈ ui.callbacks, c.ForPo
  threads    : ∀ t ∈ ui.threads, t.ForPo

-- Without a purchase order nothing else is ever under way.
structure Loaded (ui : Ui) : Prop where
  pos       : ∀ po ∈ ui.activePos, po ≠ ""
  callbacks : ∀ c ∈ ui.callbacks, c.Named
  threads   : ∀ t ∈ ui.threads, t.Named
  fresh     : ui.currentPo = "" → ui.Fresh

theorem Loaded.init : Loaded .init where
  pos _ h       := absurd h List.not_mem_nil
  callbacks _ h := absurd h List.not_mem_nil
  threads _ h   := absurd h List.not_mem_nil
  fresh _       := ⟨rfl, rfl, rfl, fun _ h => absurd h List.not_mem_nil,
    fun _ h => absurd h List.not_mem_nil⟩

namespace Loaded

-- A step that keeps the purchase order and queues and starts nothing but loads and switches.
theorem mono (h : ui.Loaded) (hp : ui'.currentPo = ui.currentPo)
    (ha : ui'.activePos = ui.activePos)
    (hc : ∀ c ∈ ui'.callbacks, c ∈ ui.callbacks ∨ (c.Named ∧ c.ForPo))
    (ht : ∀ t ∈ ui'.threads, t ∈ ui.threads ∨ (t.Named ∧ t.ForPo))
    (hf : ui.Fresh → ui'.state = .idle ∧ ui'.manualPlaced = false ∧ ui'.needsModelPlaced = false) :
    ui'.Loaded where
  pos           := ha ▸ h.pos
  callbacks c m := (hc c m).elim (h.callbacks c) And.left
  threads t m   := (ht t m).elim (h.threads t) And.left
  fresh hn :=
    have hfresh := h.fresh (hp ▸ hn)
    have ⟨hs, hm, hn⟩ := hf hfresh
    ⟨hs, hm, hn, fun c m => (hc c m).elim (hfresh.callbacks c) And.right,
      fun t m => (ht t m).elim (hfresh.threads t) And.right⟩

-- A step that keeps the purchase order, where there is one.
theorem keep (h : ui.Loaded) (hpo : ui.currentPo ≠ "") (hp : ui'.currentPo = ui.currentPo)
    (ha : ui'.activePos = ui.activePos) (hc : ∀ c ∈ ui'.callbacks, c ∈ ui.callbacks ∨ c.Named)
    (ht : ∀ t ∈ ui'.threads, t ∈ ui.threads ∨ t.Named) : ui'.Loaded where
  pos           := ha ▸ h.pos
  callbacks c m := (hc c m).elim (h.callbacks c) id
  threads t m   := (ht t m).elim (h.threads t) id
  fresh hn      := absurd (hp ▸ hn) hpo

theorem ne_of_state (h : ui.Loaded) (hs : ui.state ≠ .idle) : ui.currentPo ≠ "" :=
  fun hpo => hs (h.fresh hpo).state

theorem ne_of_needsModelPlaced (h : ui.Loaded) (hp : ui.needsModelPlaced) : ui.currentPo ≠ "" :=
  fun hpo => by simp [(h.fresh hpo).needsModel] at hp

theorem queued (h : ui.Loaded) (hpo : ui.currentPo ≠ "") {c : Callback} (hn : c.Named)
    (hp : ui'.currentPo = ui.currentPo) (ha : ui'.activePos = ui.activePos)
    (hc : ui'.callbacks = ui.callbacks ++ [c]) (ht : ui'.threads = ui.threads) : ui'.Loaded := by
  refine h.keep hpo hp ha (fun c' hm => ?_) (fun _ hm => .inl (ht ▸ hm))
  exact (List.mem_append.mp (hc ▸ hm)).imp_right fun hm => by rwa [List.mem_singleton.mp hm]

theorem started (h : ui.Loaded) (hpo : ui.currentPo ≠ "") {t : Thread} (hn : t.Named)
    (hp : ui'.currentPo = ui.currentPo) (ha : ui'.activePos = ui.activePos)
    (hc : ui'.callbacks = ui.callbacks) (ht : ui'.threads = ui.threads ++ [t]) : ui'.Loaded := by
  refine h.keep hpo hp ha (fun _ hm => .inl (hc ▸ hm)) (fun t' hm => ?_)
  exact (List.mem_append.mp (ht ▸ hm)).imp_right fun hm => by rwa [List.mem_singleton.mp hm]

-- The same purchase order, callbacks and threads.
theorem same (h : ui.Loaded) (hpo : ui.currentPo ≠ "") (hp : ui'.currentPo = ui.currentPo)
    (ha : ui'.activePos = ui.activePos) (hc : ui'.callbacks = ui.callbacks)
    (ht : ui'.threads = ui.threads) : ui'.Loaded :=
  h.keep hpo hp ha (fun _ hm => .inl (hc ▸ hm)) (fun _ hm => .inl (ht ▸ hm))

theorem setIdle (h : ui.Loaded) : ui.setIdle.Loaded :=
  h.mono rfl rfl (fun _ => .inl) (fun _ => .inl) fun hf => ⟨rfl, rfl, hf.needsModel⟩

theorem hideManualEntry (h : ui.Loaded) : ui.hideManualEntry.Loaded :=
  h.mono rfl rfl (fun _ => .inl) (fun _ => .inl) fun hf => ⟨hf.state, rfl, hf.needsModel⟩

-- A purchase order is loaded or switched to.
theorem setPo (h : ui.Loaded) {po : String} (hpo : po ≠ "") (hp : ui'.currentPo = po)
    (ha : ∀ po' ∈ ui'.activePos, po' ∈ ui.activePos ∨ po' = po)
    (hc : ui'.callbacks = ui.callbacks) (ht : ui'.threads = ui.threads) : ui'.Loaded where
  pos po' m := (ha po' m).elim (h.pos po') (fun he => he ▸ hpo)
  callbacks := hc ▸ h.callbacks
  threads   := ht ▸ h.threads
  fresh hn  := absurd (hp.symm.trans hn) hpo

theorem dequeue (h : ui.Loaded) (i : Nat) : (ui.dequeue i).Loaded :=
  h.mono rfl rfl (fun _ hm => .inl (List.mem_of_mem_eraseIdx hm)) (fun _ => .inl)
    fun hf => ⟨hf.state, hf.manual, hf.needsModel⟩

-- Callbacks that are not about purchase orders are only queued where there is one.
theorem ne_of_queued (h : ui.Loaded) {i : Nat} {c : Callback} (hc : ui.callbacks[i]? = some c)
    (hn : ¬c.ForPo) : ui.currentPo ≠ "" :=
  fun hpo => hn ((h.fresh hpo).callbacks c (List.mem_of_getElem? hc))

theorem named (h : ui.Loaded) {i : Nat} {c : Callback} (hc : ui.callbacks[i]? = some c) : c.Named :=
  h.callbacks c (List.mem_of_getElem? hc)

theorem finish (h : ui.Loaded) {i : Nat} {t : Thread} {cs : List Callback}
    (ht : ui.threads[i]? = some t) (hc : callback t e = some cs) :
    Loaded { ui with threads := ui.threads.eraseIdx i, callbacks := ui.callbacks ++ cs } := by
  have hm : t ∈ ui.threads := List.mem_of_getElem? ht
  have hn (c : Callback) (hm' : c ∈ cs) : c.Named ∧ (t.ForPo → c.ForPo) := by
    have hnamed := h.threads t hm
    unfold callback at hc
    split at hc <;> cases hc
    all_goals simp_all [Callback.Named, Callback.ForPo, Thread.Named, Thread.ForPo]
  by_cases hpo : ui.currentPo = ""
  case pos =>
    have hf : t.ForPo := (h.fresh hpo).threads t hm
    refine h.mono rfl rfl (fun c hm' => ?_) (fun _ hm' => .inl (List.mem_of_mem_eraseIdx hm'))
      fun hf => ⟨hf.state, hf.manual, hf.needsModel⟩
    exact (List.mem_append.mp hm').imp_right fun hm' => ⟨(hn c hm').1, (hn c hm').2 hf⟩
  case neg =>
    refine h.keep hpo rfl rfl (fun c hm' => ?_) (fun _ hm' => .inl (List.mem_of_mem_eraseIdx hm'))
    exact (List.mem_append.mp hm').imp_right fun hm' => (hn c hm').1

theorem step (hm : ui.Moves e ui') (h : ui.Loaded) : ui'.Loaded := by
  have hkeep (hf : ui.Fresh) :
      ui.state = .idle ∧ ui.manualPlaced = false ∧ ui.needsModelPlaced = false :=
    ⟨hf.state, hf.manual, hf.needsModel⟩
  cases hm
  case ignored | undismissed | unshown => exact h
  case turnstile barcode hs =>
    exact h.queued (c := .handleProposeScan _) (h.ne_of_state (by simp [hs])) trivial rfl rfl rfl
      rfl
  case realert hs =>
    exact h.queued (c := .handleNeedsModelScan) (h.ne_of_state (by simp [hs])) trivial rfl rfl rfl
      rfl
  case poSwitch hpo =>
    refine h.mono rfl rfl (fun c hm => (List.mem_append.mp hm).imp_right fun hm => ?_)
      (fun _ => .inl) hkeep
    rw [List.mem_singleton.mp hm]
    exact ⟨h.pos _ hpo, trivial⟩
  case resolve hpo =>
    exact h.started hpo (t := .runResolution _ _) trivial rfl rfl rfl rfl
  case serialMatch hs =>
    have hpo := h.ne_of_state (by simp [hs])
    exact h.started hpo (t := .runMatch _ _ ui.currentPo) hpo rfl rfl rfl rfl
  case dismissed =>
    refine setIdle <| h.mono rfl rfl (fun _ => .inl) (fun _ => .inl) fun hf => ?_
    exact ⟨hf.state, hf.manual, rfl⟩
  case syncDismissed => exact setIdle <| h.mono rfl rfl (fun _ => .inl) (fun _ => .inl) hkeep
  case reset         => exact h.setIdle
  case poSubmit pos hpos =>
    refine h.mono rfl rfl (fun _ => .inl) (fun t hm => ?_) hkeep
    refine (List.mem_append.mp hm).imp_right fun hm => ?_
    obtain ⟨po, hpo, rfl⟩ := List.mem_map.mp hm
    exact ⟨hpos po hpo, trivial⟩
  case showManual hpo               => exact h.same hpo rfl rfl rfl rfl
  case cancelManual | manualRefused => exact h.hideManualEntry
  case manualSubmit hpo =>
    exact h.started hpo (t := .runMatch _ _ ui.currentPo) hpo rfl rfl rfl rfl
  case formBlank hp _ => exact h.same (h.ne_of_needsModelPlaced hp) rfl rfl rfl rfl
  case formNoPo hp _ hpo => exact absurd hpo (h.ne_of_needsModelPlaced hp)
  case formRaises hpo | formOnPo hpo => exact h.same hpo rfl rfl rfl rfl
  case formOffPo hpo =>
    exact h.started hpo (t := .runMatch _ _ ui.currentPo) hpo rfl rfl rfl rfl
  case poLocked i _ hc =>
    exact (h.dequeue i).setPo (h.named hc) rfl (fun _ => .inl) rfl rfl
  case poAdded i po hc =>
    refine (h.dequeue i).setPo (h.named hc) rfl (fun po' hpo' => ?_) rfl rfl
    simp only [addPo, Ui.setIdle, Ui.hideManualEntry] at hpo'
    split at hpo'
    case isTrue  => exact .inl hpo'
    case isFalse => exact (List.mem_append.mp hpo').imp_right List.mem_singleton.mp
  case failed i _ | autoCleared i _ _ => exact (h.dequeue i).setIdle
  case confirmed i _ hc _ | unconfirmed i _ hc _ | realerted i hc | verdictAuto i _ _ _ hc _ |
      verdictPropose i _ _ _ hc _ | verdictNeedsModel i _ _ _ hc _ | noMatch i _ hc |
      printFailed i _ hc =>
    exact (h.dequeue i).same (h.ne_of_queued hc id) rfl rfl rfl rfl
  case received i _ hc | alreadyScanned i _ hc =>
    exact (h.dequeue i).queued (c := .autoClear _) (h.ne_of_queued hc id) trivial rfl rfl rfl rfl
  case finish ht hc => exact h.finish ht hc

end Loaded
end Ui
end ReceivingApp
