import ReceivingApp.Theorems.Ledger

open Interaction

namespace ReceivingApp

variable {py : PyStd} {w w' : World} {c : Receipt}

-- A completed scan or a completed refresh.
def Event.IsSession : Event py → Prop
  | .scan ..    => True
  | .refresh .. => True
  | _           => False

-- Runs of completed scans and refreshes.
abbrev Session (py : PyStd) : World → List (Event py) → World → Prop :=
  Trace fun w e w' => Event.Step w e w' ∧ e.IsSession

-- Receipts survive the refreshes of a run: no two scans receive one inventory_id, and a serial that
-- was received before a refresh is still a duplicate after it.
structure Survives (py : PyStd) (w : World) (es : List (Event py)) (w' : World) : Prop where
  distinct : es.Pairwise fun e e' => ∀ s r s' r', e = .scan s r → e' = .scan s' r' →
    r.matchStatus = .received → r'.matchStatus = .received → r.inventoryId ≠ r'.inventoryId
  duplicate : ∀ es₁ es₂ es₃ es₄ s r now items s' r',
    es = es₁ ++ .scan s r :: (es₂ ++ .refresh now items :: (es₃ ++ .scan s' r' :: es₄)) →
    r.matchStatus = .received → s'.poNumber = s.poNumber → s'.serial = s.serial →
    r'.matchStatus = .alreadyScanned ∧
      ∃ w₁, Session py w (es₁ ++ .scan s r :: (es₂ ++ .refresh now items :: es₃)) w₁ ∧
        Event.Step w₁ (.scan s' r') w₁ ∧ Session py w₁ es₄ w'

-- What a scan must not do to the receipts of earlier ones.
structure Scan.Spares (s : Scan py) (db : Db) : Prop where
  -- It does not go for a unit that has a receipt.
  unreceived : ∀ row, s.target db = some row → ∀ c ∈ db.ledger.receipts,
    row.inventoryId ≠ some c.inventoryId
  -- A serial whose receipt has lost its claim finds no open row, but a unit that is still listed.
  lapsed : ∀ c ∈ db.ledger.receipts, c.purchaseOrder = s.poNumber → c.serial = s.serial →
    c.inventoryId ∉ db.ledger.claimed → s.target db = none ∧ s.serial ≠ "" ∧
      ∃ c' ∈ db.ledger.receipts, c'.purchaseOrder = s.poNumber ∧ c'.serial = s.serial ∧
        c'.inventoryId ∈ db.ledger.listed
  -- What it saves does not overwrite a receipt.
  fresh : ∀ db' r, s.Saves db db' r → db.ledger.Fresh r.receivingId

theorem Scan.Spares.of_no_receipts {s : Scan py} {db : Db}
    (h : ∀ row ∈ db.receivingItems.rows, row.matchStatus ≠ .received) : s.Spares db := by
  have hn (c : Receipt) (hc : c ∈ db.ledger.receipts) : False := by
    have ⟨row, hr, hs, _⟩ := hc
    exact h row hr hs
  exact ⟨fun _ _ c hc => (hn c hc).elim, fun c hc => (hn c hc).elim,
    fun _ _ _ c hc => (hn c hc).elim⟩

theorem Scan.Spares.of_duplicate {s : Scan py} {db : Db} (ht : s.target db = none)
    (hd : (s.duplicate db).isSome) : s.Spares db := by
  refine ⟨fun row hr => by simp [ht] at hr, fun _ _ _ _ _ => ⟨ht, duplicate_isSome_iff.mp hd⟩, ?_⟩
  intro _ _ hs
  cases hs
  case claim hr _ => simp [ht] at hr
  case miss hn    => simp [hn] at hd

-- A run all of whose scans spare the receipts.
abbrev Sparing (py : PyStd) : World → List (Event py) → World → Prop :=
  Trace fun w e w' => (Event.Step w e w' ∧ e.IsSession) ∧
    ∀ s r, e = .scan s r → s.Spares w.db

section Step

variable {s : Scan py} {r : ReceivingRecord} {e : Event py}

-- What a scan that spares the receipts adds to them.
theorem Scan.Spares.receipts_subset (h : s.Spares w.db) (hs : s.Completes w w' r) :
    w.db.ledger.receipts ⊆ w'.db.ledger.receipts := by
  cases hs
  case alreadyScanned => exact subset_rfl
  case saved hsave =>
    rw [Scan.ledger_settle]
    have hf := h.fresh _ _ hsave
    cases hsave
    case claim ht hid =>
      rw [Scan.ledger_claimed, Ledger.receipts_book_of_fresh hf]
      exact Set.subset_insert _ _
    case miss => rw [Scan.ledger_missed, Ledger.void_of_fresh hf]

theorem Scan.Completes.receipt_mem (hs : s.Completes w w' r) (hr : r.matchStatus = .received) :
    r.receipt ∈ w'.db.ledger.receipts := by
  cases hs
  case alreadyScanned => cases hr
  case saved hsave =>
    rw [Scan.ledger_settle]
    cases hsave
    case claim ht hid =>
      rw [Scan.ledger_claimed]
      exact .inl rfl
    case miss => cases hr

theorem ledger_refresh {now : String} {items : List LineItem}
    (h : Event.Step w (.refresh now items : Event py) w') :
    w'.db.ledger = w.db.ledger.relist (Db.itemIds items) := by
  obtain ⟨_, db, hr, rfl⟩ := Event.step_refresh_iff.mp h
  exact Db.ledger_replacePoItems hr

-- A receipt whose unit nobody has claimed since a refresh.
def Lapsed (c : Receipt) (w : World) : Prop :=
  c ∈ w.db.ledger.receipts ∧ c.inventoryId ∉ w.db.ledger.claimed

theorem Scan.Spares.lapsed_of_completes (h : s.Spares w.db) (hs : s.Completes w w' r)
    (hc : Lapsed c w) : Lapsed c w' := by
  refine ⟨h.receipts_subset hs hc.1, ?_⟩
  cases hs
  case alreadyScanned => exact hc.2
  case saved hsave =>
    rw [Scan.ledger_settle]
    cases hsave
    case miss => exact hc.2
    case claim row id ht hid =>
      rw [Scan.ledger_claimed]
      rintro (hcl | ⟨_, he⟩)
      · exact hc.2 hcl
      · exact h.unreceived row ht c hc.1 (by rw [hid, he]; rfl)

end Step

namespace Sparing

theorem session {es : List (Event py)} (h : Sparing py w es w') : Session py w es w' :=
  Trace.mono And.left h

theorem step_receipts_subset {e : Event py} (h : (Event.Step w e w' ∧ e.IsSession) ∧
    ∀ s r, e = .scan s r → s.Spares w.db) : w.db.ledger.receipts ⊆ w'.db.ledger.receipts := by
  have ⟨⟨hs, he⟩, hg⟩ := h
  cases e
  case scan s r    => exact (hg s r rfl).receipts_subset (Event.step_scan_iff.mp hs)
  case refresh     => rw [ledger_refresh hs]; exact subset_rfl
  all_goals cases he

theorem step_lapsed {e : Event py} (h : (Event.Step w e w' ∧ e.IsSession) ∧
    ∀ s r, e = .scan s r → s.Spares w.db) (hc : Lapsed c w) : Lapsed c w' := by
  refine ⟨step_receipts_subset h hc.1, ?_⟩
  have ⟨⟨hs, he⟩, hg⟩ := h
  cases e
  case scan s r    => exact ((hg s r rfl).lapsed_of_completes (Event.step_scan_iff.mp hs) hc).2
  case refresh     => rw [ledger_refresh hs]; exact Set.notMem_empty _
  all_goals cases he

theorem distinct {es : List (Event py)} (h : Sparing py w es w') :
    es.Pairwise fun e e' => ∀ s r s' r', e = .scan s r → e' = .scan s' r' →
      r.matchStatus = .received → r'.matchStatus = .received → r.inventoryId ≠ r'.inventoryId := by
  refine Trace.pairwise (I := fun e w => ∀ s r, e = .scan s r → r.matchStatus = .received →
    r.receipt ∈ w.db.ledger.receipts) (fun hs s r he hr => ?_) (fun {w e e' w'} hs hi => ?_) h
  · subst he
    exact (Event.step_scan_iff.mp hs.1.1).receipt_mem hr
  · refine ⟨fun s r he hr => step_receipts_subset hs (hi s r he hr), ?_⟩
    rintro s r s' r' he rfl hr hr' hid
    cases Event.step_scan_iff.mp hs.1.1
    case alreadyScanned => cases hr'
    case saved hsave =>
      cases hsave
      case miss => cases hr'
      case claim row id ht hrow =>
        exact (hs.2 s' _ rfl).unreceived row ht _ (hi s r he hr)
          (hrow.trans (congrArg some hid.symm))

-- Where every scan spares the receipts, they survive all refreshes.
theorem survives {es : List (Event py)} (h : Sparing py w es w') : Survives py w es w' := by
  refine ⟨h.distinct, ?_⟩
  rintro es₁ es₂ es₃ es₄ s r now items s' r' rfl hr hpo hserial
  have ⟨w₁, w₂, h₁, hs, h⟩ := Trace.cons_append_iff.mp h
  have ⟨w₃, w₄, h₂, hrefresh, h⟩ := Trace.cons_append_iff.mp h
  have ⟨w₅, w₆, h₃, hs', h₄⟩ := Trace.cons_append_iff.mp h
  -- The receipt of the first scan is there before the refresh, and lapses with it.
  have hc₂ : r.receipt ∈ w₂.db.ledger.receipts := (Event.step_scan_iff.mp hs.1.1).receipt_mem hr
  have hc₃ : r.receipt ∈ w₃.db.ledger.receipts :=
    Trace.invariant (I := fun w => r.receipt ∈ w.db.ledger.receipts)
      (fun hs hc => step_receipts_subset hs hc) h₂ hc₂
  have hc₄ : Lapsed r.receipt w₄ := by
    rw [Lapsed, ledger_refresh hrefresh.1.1]
    exact ⟨hc₃, Set.notMem_empty _⟩
  have hc₅ : Lapsed r.receipt w₅ := Trace.invariant (I := Lapsed r.receipt) step_lapsed h₃ hc₄
  have hscan := Event.step_scan_iff.mp hs.1.1
  have hscan' := Event.step_scan_iff.mp hs'.1.1
  have ⟨ht, hne, hd⟩ := (hs'.2 s' r' rfl).lapsed r.receipt hc₅.1
    (hscan.purchaseOrder_eq.trans hpo.symm) (hscan.serial_eq.trans hserial.symm) hc₅.2
  obtain ⟨hr', rfl⟩ := hscan'.of_duplicate ht (Scan.duplicate_isSome_iff.mpr ⟨hne, hd⟩)
  refine ⟨hr', w₆, ?_, hs'.1.1, session h₄⟩
  exact session <| Trace.cons_append_iff.mpr
    ⟨w₁, w₂, h₁, hs, Trace.cons_append_iff.mpr ⟨w₃, w₄, h₂, hrefresh, h₃⟩⟩

end Sparing
def otherSerial : Scan .ascii := ⟨"A", "P", "S2", 0, .sample⟩

def otherBarcode : Scan .ascii := ⟨"B", "P", "S1", 0, .sample⟩

-- A unit is scanned, its catalog refreshed, and then the given scan made.
def oneItem : List LineItem := [.unit "1" "P" "A"]

def firstWorld : World := World.init.refreshed oneItem

def secondWorld : World := (Scan.sample.after firstWorld).refreshed oneItem

def refreshRun (r r' : ReceivingRecord) (s' : Scan .ascii) : List (Event .ascii) :=
  [.refresh sampleTime oneItem, .scan .sample r, .refresh sampleTime oneItem, .scan s' r']

theorem completes_firstWorld :
    ∃ r, Scan.sample.Completes firstWorld (Scan.sample.after firstWorld) r ∧
      (r.matchStatus, r.inventoryId) = (.received, "1") :=
  Scan.completes_of_map (by decide +kernel)

theorem step_secondWorld :
    Event.Step (Scan.sample.after firstWorld) (.refresh sampleTime oneItem : Event .ascii)
      secondWorld :=
  Event.step_refreshed nofun (by decide +kernel)

-- The same unit is scanned again, but with a barcode that stands for no model.
theorem survives_sample :
    ∃ r r', Survives .ascii .init (refreshRun r r' otherBarcode)
      secondWorld := by
  have ⟨r, hc, _⟩ := completes_firstWorld
  have ht : otherBarcode.target secondWorld.db = none := by decide +kernel
  have hd : (otherBarcode.duplicate secondWorld.db).isSome := by
    decide +kernel
  have ⟨dup, hdup⟩ := Option.isSome_iff_exists.mp hd
  have hs : Event.Step secondWorld (.scan otherBarcode _) secondWorld :=
    Event.step_scan_iff.mpr (.alreadyScanned ht hdup)
  have h : Sparing .ascii .init (refreshRun r _ otherBarcode) secondWorld :=
    .cons ⟨⟨Event.step_refreshed nofun (by decide +kernel), trivial⟩, nofun⟩ <|
    .cons ⟨⟨Event.step_scan_iff.mpr hc, trivial⟩, fun _ _ he => by
      cases he; exact .of_no_receipts (by decide +kernel)⟩ <|
    .cons ⟨⟨step_secondWorld, trivial⟩, nofun⟩ <|
    .cons ⟨⟨hs, trivial⟩, fun _ _ he => by cases he; exact .of_duplicate ht hd⟩ (.nil _)
  exact ⟨r, _, h.survives⟩

-- The same model is scanned again, and with it the same unit is received again.
theorem not_survives :
    ¬∀ (w w' : World) (es : List (Event .ascii)),
      Session .ascii w es w' → Survives .ascii w es w' := by
  intro hsurvives
  have ⟨r, hc, he⟩ := completes_firstWorld
  have ha : (otherSerial.returned secondWorld).map
      (fun r => (r.matchStatus, r.inventoryId)) = some (.received, "1") := by decide +kernel
  have ⟨r', hc', he'⟩ := Scan.completes_of_map ha
  have h : Session .ascii .init (refreshRun r r' otherSerial) _ :=
    .cons ⟨Event.step_refreshed nofun (by decide +kernel), trivial⟩ <|
    .cons ⟨Event.step_scan_iff.mpr hc, trivial⟩ <|
    .cons ⟨step_secondWorld, trivial⟩ <|
    .cons ⟨Event.step_scan_iff.mpr hc', trivial⟩ (.nil _)
  have hd := (List.pairwise_cons.mp (List.pairwise_cons.mp (hsurvives _ _ _ h).distinct).2).1
  have ⟨hr, hid⟩ := Prod.mk.inj he
  have ⟨hr', hid'⟩ := Prod.mk.inj he'
  exact hd _ (.tail _ (.head _)) _ _ _ _ rfl rfl hr hr' (hid.trans hid'.symm)

end ReceivingApp
