import ReceivingApp.Theorems.Duplicates
import ReceivingApp.Theorems.Refreshes

open Interaction

namespace ReceivingApp

variable {py : PyStd}

namespace Scan

-- A scan that goes for the unit `id` is stopped after its claim was committed, but before it
-- returns.
structure Crashes (s : Scan py) (row : PoRow) (id : String) (w w₁ : World) : Prop where
  target      : s.target w.db = some row
  inventoryId : row.inventoryId = some id
  stopped     : ∃ q, Program.Steps World.env w s.program w₁ q ∧ ∀ r, q ≠ .pure r
  committed   : id ∈ w₁.db.ledger.claimed

-- A scan with the same arguments and a new sink adapter.
structure Retries (s' s : Scan py) (w₁ : World) : Prop where
  barcode  : s'.barcode = s.barcode
  poNumber : s'.poNumber = s.poNumber
  serial   : s'.serial = s.serial
  sink     : w₁.seen s'.sink = []

def itemsFor (s : Scan py) (id : String) (board : List CreatedItem) : Nat :=
  board.countP (fun item => item.inventoryId = id ∧ item.serial = s.serial)

-- One slot is claimed for the serial, one item is on the board, and the record is marked.
structure Recovered (s : Scan py) (id : String) (w : World) : Prop where
  slot    : ∃! i, w.db.ledger.Holds s.poNumber s.serial i
  item    : s.itemsFor id w.board = 1
  emitted : w.db.wasEmitted (makeReceivingId py s.poNumber (some id) s.barcode)

-- What must hold before the scan for this to come true: the same unit went through the whole of
-- `process_scan` earlier, no other unit can be claimed, and none was claimed for the serial.
structure Recoverable (s : Scan py) (id : String) (w : World) : Prop where
  emitted : w.db.wasEmitted (makeReceivingId py s.poNumber (some id) s.barcode)
  item    : s.itemsFor id w.board = 1
  last    : ∀ row, resolveRow py s.barcode
      ((w.db.unclaimedForPo s.poNumber).filter (fun row => row.inventoryId ≠ some id)) = some row →
    row.inventoryId = none
  unheld  : ∀ c ∈ w.db.ledger.receipts, c.inventoryId ∈ w.db.ledger.claimed →
    c.purchaseOrder = s.poNumber → c.serial = s.serial →
    c.receivingId = makeReceivingId py s.poNumber (some id) s.barcode

variable {s s' : Scan py} {row : PoRow} {id : String} {w w₁ : World}

-- The world of a crash: the claim is there, and the item may be on the board.
theorem Crashes.world (h : s.Crashes row id w w₁) :
    w₁.db = s.claimed row id w.db ∧
      (w₁.board = w.board ∨ w.db.wasEmitted (s.received row id).receivingId = false) := by
  have ⟨q, hs, hq⟩ := h.stopped
  cases cut_of_steps hs
  case before =>
    exact absurd h.committed (not_claimed_of_target h.target h.inventoryId)
  case alreadyScanned => exact absurd rfl (hq _)
  case saved hsave hsettle =>
    cases hsave
    case miss ht _ => simp [h.target] at ht
    case claim ht hid =>
      cases h.target.symm.trans ht
      cases h.inventoryId.symm.trans hid
      cases hsettle
      case before         => exact ⟨rfl, .inl rfl⟩
      case emitted he _   => exact ⟨by rw [World.emit_db], .inr (Db.wasEmitted_saveRecord ▸ he)⟩
      case settled        => exact absurd rfl (hq _)

theorem Crashes.ledger (h : s.Crashes row id w w₁) :
    w₁.db.ledger = w.db.ledger.book (s.received row id).receipt := by
  rw [h.world.1, ledger_claimed]

theorem Crashes.listed (h : s.Crashes row id w w₁) : id ∈ w.db.ledger.listed :=
  listed_of_target h.target h.inventoryId

theorem Crashes.wasEmitted (h : s.Crashes row id w w₁) {rid : String} :
    w₁.db.wasEmitted rid = w.db.wasEmitted rid := by
  rw [h.world.1]
  exact Db.wasEmitted_saveRecord

-- The candidates of the retry are those of the scan without the unit it has claimed.
theorem Retries.target_eq (hr : s'.Retries s w₁) (h : s.Crashes row id w w₁) :
    s'.target w₁.db = resolveRow py s.barcode
      ((w.db.unclaimedForPo s.poNumber).filter (fun row => row.inventoryId ≠ some id)) := by
  rw [target, hr.barcode, hr.poNumber, h.world.1, ← Db.unclaimedForPo_claim]
  rfl

theorem Retries.duplicate_isSome (hr : s'.Retries s w₁) (h : s.Crashes row id w w₁)
    (hs : s.serial ≠ "") : (s'.duplicate w₁.db).isSome := by
  rw [duplicate_isSome_iff, hr.serial, hr.poNumber, h.ledger]
  exact ⟨hs, _, .inl rfl, rfl, rfl, h.listed⟩

-- Nothing but the retry's own claim can change what the crash has left.
theorem Retries.after_cases (hr : s'.Retries s w₁) (h : s.Crashes row id w w₁)
    (hs : s.serial ≠ "") :
    (∃ row' id', s'.target w₁.db = some row' ∧ row'.inventoryId = some id' ∧
      (s'.after w₁).db.ledger = w₁.db.ledger.book (s'.received row' id').receipt) ∨
    ((∀ row', s'.target w₁.db = some row' → row'.inventoryId = none) ∧ s'.after w₁ = w₁) := by
  cases ht : s'.target w₁.db
  case none =>
    have ⟨dup, hd⟩ := Option.isSome_iff_exists.mp (hr.duplicate_isSome h hs)
    refine .inr ⟨nofun, ?_⟩
    rw [after, run_of_completes (.alreadyScanned ht hd)]
  case some row' =>
    cases hid : row'.inventoryId
    case none => exact .inr ⟨fun _ he => by cases he; exact hid, congrArg Prod.snd (run_of_null ht hid)⟩
    case some id' =>
      refine .inl ⟨row', id', rfl, hid, ?_⟩
      rw [after, run_of_completes (.saved (.claim ht hid)), ledger_settle, ledger_claimed]

-- The end of a scan and its retry.
theorem recovered_iff (hinj : Function.Injective py.sha256Hex) (hs : s.serial ≠ "")
    (h : s.Crashes row id w w₁) (hr : s'.Retries s w₁) :
    s.Recovered id (s'.after w₁) ↔ s.Recoverable id w := by
  have hn := not_claimed_of_target h.target h.inventoryId
  rcases hr.after_cases h hs with ⟨row', id', ht, hid, hl⟩ | ⟨hlast, hw⟩
  case inl =>
    -- The retry claims a second unit.
    have hne : id' ≠ id := by
      rintro rfl
      exact not_claimed_of_target ht hid h.committed
    have hrid : (s.received row id).receivingId ≠ (s'.received row' id').receivingId := by
      show makeReceivingId py _ (some id) _ ≠ makeReceivingId py _ (some id') _
      rw [hr.poNumber, hr.barcode, ne_eq, makeReceivingId_inj hinj]
      exact hne.symm
    refine iff_of_false (fun hrec => ?_) (fun hrec => ?_)
    · have hslot := hrec.slot
      rw [hl, h.ledger] at hslot
      have hl' : id' ∈ w.db.ledger.listed := by
        have hl' := listed_of_target ht hid
        rwa [h.ledger] at hl'
      exact Ledger.not_existsUnique_holds_book h.listed hl' hne hrid hr.poNumber hr.serial hslot
    · rw [hr.target_eq h] at ht
      simp [hrec.last row' ht] at hid
  case inr =>
    have hslot : (∃! i, w₁.db.ledger.Holds s.poNumber s.serial i) ↔
        ∀ c ∈ w.db.ledger.receipts, c.inventoryId ∈ w.db.ledger.claimed →
          c.purchaseOrder = s.poNumber → c.serial = s.serial →
          c.receivingId = makeReceivingId py s.poNumber (some id) s.barcode := by
      rw [h.ledger]
      exact Ledger.existsUnique_holds_book_iff h.listed hn
    have hboard (he : w.db.wasEmitted (makeReceivingId py s.poNumber (some id) s.barcode)) :
        w₁.board = w.board :=
      h.world.2.resolve_right fun hf => Bool.false_ne_true (hf.symm.trans he)
    rw [hw]
    constructor
    case mp =>
      intro hrec
      have he := h.wasEmitted ▸ hrec.emitted
      exact ⟨he, hboard he ▸ hrec.item, hr.target_eq h ▸ hlast, hslot.mp hrec.slot⟩
    case mpr =>
      intro hrec
      exact ⟨hslot.mpr hrec.unheld, hboard hrec.emitted ▸ hrec.item,
        h.wasEmitted.trans hrec.emitted⟩

-- The process dies right after `claim_and_save`.
theorem crashes_claimed (ht : s.target w.db = some row) (hid : row.inventoryId = some id) :
    s.Crashes row id w { w with db := s.claimed row id w.db } where
  target      := ht
  inventoryId := hid
  stopped     := by
    refine ⟨emitOnce s.clock s.sink (s.received row id), ?_, nofun⟩
    rw [program_eq]
    refine Program.steps_perform_bind_iff.mpr <| .inr <| .inl ⟨_, w, World.env_ok_iff.mpr rfl, ?_⟩
    rw [afterRead_of_some ht hid]
    exact Program.steps_perform_bind_iff.mpr <|
      .inr <| .inl ⟨(), _, World.env_ok_iff.mpr rfl, .refl _ _⟩
  committed := by
    simp only [ledger_claimed]
    exact .inr ⟨listed_of_target ht hid, rfl⟩

-- The row of the sample's unit, and the sample scan with another sink adapter.
def sampleRow : PoRow where
  inventoryId   := some "1"
  purchaseOrder := "P"
  modelNumber   := "A"
  description   := none
  brand         := none
  vendor        := none
  tags          := none
  createdAt     := sampleTime
  claimedAt     := none

def retry : Scan .ascii := { sample with sink := 1 }

def crashed (w : World) : World := { w with db := sample.claimed sampleRow "1" w.db }

-- Where the unit had been received before a refresh, and all of it done, the scan may crash.
theorem recovered_sample :
    ∃ w₁, sample.Crashes sampleRow "1" secondWorld w₁ ∧ sample.Recovered "1" (retry.after w₁) := by
  have h : sample.Crashes sampleRow "1" secondWorld (crashed secondWorld) :=
    crashes_claimed (by decide +kernel) rfl
  have hr : retry.Retries sample (crashed secondWorld) := ⟨rfl, rfl, rfl, by decide +kernel⟩
  refine ⟨_, h, (recovered_iff PyStd.ascii_injective (by decide) h hr).mpr ?_⟩
  constructor
  case emitted => decide +kernel
  case item    => decide +kernel
  case last =>
    have hn : resolveRow .ascii sample.barcode
        ((secondWorld.db.unclaimedForPo sample.poNumber).filter
          (fun row => row.inventoryId ≠ some "1")) = none := by decide +kernel
    exact fun row hrow => by rw [hn] at hrow; cases hrow
  case unheld =>
    intro c _ hc
    rw [ledger_refresh step_secondWorld] at hc
    exact absurd hc (Set.notMem_empty _)

-- Where the process dies before the item is posted, the retry takes the scan for a duplicate, and
-- the item is never posted.
theorem not_recovered :
    ¬∀ (w w₁ : World) (s s' : Scan .ascii) (row : PoRow) (id : String), Reachable .ascii w →
      s.serial ≠ "" → s.Crashes row id w w₁ → s'.Retries s w₁ → s.Recovered id (s'.after w₁) := by
  intro hall
  have hw : Reachable .ascii .oneUnit :=
    .upsert (.empty rfl) (Event.step_loaded (by decide +kernel))
  have h : sample.Crashes sampleRow "1" .oneUnit (crashed .oneUnit) :=
    crashes_claimed (by decide +kernel) rfl
  have hr : retry.Retries sample (crashed .oneUnit) := ⟨rfl, rfl, rfl, by decide +kernel⟩
  exact absurd (hall _ _ _ _ _ _ hw (by decide) h hr).item (by decide +kernel)

end Scan
end ReceivingApp
