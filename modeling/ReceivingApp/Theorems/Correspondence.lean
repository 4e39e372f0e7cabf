import Mathlib.Data.Set.Function
import ReceivingApp.Theorems.Ledger

open Interaction

namespace ReceivingApp

variable {py : PyStd} {w w' : World}

-- ### sync_pending

theorem processItem_uses {markedAt : String} {sink : SinkId} {item : Dict} :
    (processItem py markedAt sink item).Uses Port.KeepsLedger := by
  simp only [processItem]
  apply Program.Uses.bind (.ofExcept _)
  intro record
  split <;>
    exact .bind (.perform trivial) fun _ => .bind (.perform trivial) fun _ => .pure _

theorem syncPending_uses {markedAt : Nat → String} {sink : SinkId} :
    (syncPending py markedAt sink).Uses Port.KeepsLedger := by
  refine .bind (.perform trivial) fun pending => .bind (.foldlM (fun result item => ?_) _ _) ?_
  case refine_1 =>
    refine .tryCatch (.bind processItem_uses fun status => ?_) fun e => ?_
    all_goals split
    all_goals constructor
  case refine_2 =>
    intro result
    dsimp only
    split
    all_goals constructor

-- A sync, wherever it stops, leaves claims and receipts alone.
theorem sync_step {markedAt : Nat → String} {sink : SinkId}
    (h : Event.Step w (.sync markedAt sink : Event py) w') :
    w'.db.poInventory = w.db.poInventory ∧ w'.db.ledger = w.db.ledger := by
  cases h
  case sync hs =>
    refine hs.invariant (I := fun w' => w'.db.poInventory = w.db.poInventory ∧
      w'.db.ledger = w.db.ledger) (fun hop he hi => ?_) syncPending_uses ⟨rfl, rfl⟩
    have ⟨hp, hl⟩ := World.env_keepsLedger hop he
    exact ⟨hp.trans hi.1, hl.trans hi.2⟩

-- ### Interrupted runs

-- The worlds that loads, syncs and scans lead to from an empty repository, where a scan may be
-- stopped anywhere. All subjects that come up are in the set `T`.
inductive Interrupted (py : PyStd) (T : Set Subject) : World → Prop
  | empty {w : World} : w.db = .empty → Interrupted py T w
  | upsert {w w' : World} {now : String} {items : List LineItem} :
      Interrupted py T w → "" ∉ Db.itemIds items →
      Event.Step w (.upsert now items : Event py) w' → Interrupted py T w'
  | sync {w w' : World} {markedAt : Nat → String} {sink : SinkId} :
      Interrupted py T w → Event.Step w (.sync markedAt sink : Event py) w' → Interrupted py T w'
  | scan {w w' : World} {s : Scan py} :
      Interrupted py T w →
      (∀ id, id = "" ∨ (∃ row ∈ w.db.poInventory.rows, row.inventoryId = some id) →
        (s.poNumber, id, s.barcode) ∈ T) →
      Event.Step w (.stopped s) w' → Interrupted py T w'

-- What such runs keep: besides the balance of the ledger, where the receiving_ids come from.
structure Consistent (py : PyStd) (T : Set Subject) (db : Db) : Prop where
  balanced : db.ledger.Balanced
  labelled : ∀ c ∈ db.ledger.receipts, ∃ barcode, (c.purchaseOrder, c.inventoryId, barcode) ∈ T ∧
    c.receivingId = Subject.receivingId py (c.purchaseOrder, c.inventoryId, barcode)
  named    : "" ∉ db.ledger.listed
  nulls    : ∀ row ∈ db.poInventory.rows, row.inventoryId = none → row.claimedAt = none

namespace Consistent

variable {T : Set Subject} {db db' : Db} {s : Scan py} {r : ReceivingRecord}

theorem empty : Consistent py T .empty where
  balanced := ⟨fun _ ⟨_, hr, _⟩ => absurd hr List.not_mem_nil, fun _ hid => by cases hid⟩
  labelled := fun _ ⟨_, hr, _⟩ => absurd hr List.not_mem_nil
  named    := fun h => by cases h
  nulls    := fun _ hr => absurd hr List.not_mem_nil

-- A receipt sits on the receiving_id of its own subject only.
theorem fresh (hT : T.InjOn (Subject.receivingId py)) (h : Consistent py T db)
    {po id barcode : String} (ht : (po, id, barcode) ∈ T)
    (hn : ∀ c ∈ db.ledger.receipts, c.inventoryId ≠ id) :
    db.ledger.Fresh (makeReceivingId py po (some id) barcode) := by
  intro c hc he
  have ⟨_, hm, hr⟩ := h.labelled c hc
  have heq := hT hm ht (hr.symm.trans he)
  exact hn c hc (congrArg (·.2.1) heq)

theorem saves (hT : T.InjOn (Subject.receivingId py)) (h : Consistent py T db)
    (hs : ∀ id, id = "" ∨ (∃ row ∈ db.poInventory.rows, row.inventoryId = some id) →
      (s.poNumber, id, s.barcode) ∈ T) (hsave : s.Saves db db' r) : Consistent py T db' := by
  cases hsave
  case claim row id ht hid =>
    have hmem : (s.poNumber, id, s.barcode) ∈ T :=
      hs id (.inr ⟨row, (Scan.mem_of_target ht).1, hid⟩)
    have hn := Scan.not_claimed_of_target ht hid
    have hf : db.ledger.Fresh (s.received row id).receipt.receivingId :=
      h.fresh hT hmem fun c hc he => hn (he ▸ h.balanced.claimed c hc)
    constructor
    case balanced =>
      rw [Scan.ledger_claimed]
      exact h.balanced.book (Scan.listed_of_target ht hid) hn hf
    case labelled =>
      rw [Scan.ledger_claimed, Ledger.receipts_book_of_fresh hf]
      rintro c (rfl | hc)
      · exact ⟨s.barcode, hmem, rfl⟩
      · exact h.labelled c hc
    case named =>
      rw [Scan.ledger_claimed]
      exact h.named
    case nulls =>
      intro row' hr' hid'
      obtain ⟨row₀, hr₀, rfl⟩ := Db.mem_claim.mp hr'
      split at hid'
      case isTrue hc  => simp [hc.1] at hid'
      case isFalse hc => rw [if_neg hc]; exact h.nulls row₀ hr₀ hid'
  case miss =>
    have hf : db.ledger.Fresh s.noMatch.receivingId :=
      h.fresh hT (hs "" (.inl rfl)) fun c hc he =>
        h.named (he ▸ Db.listed_of_claimed (h.balanced.claimed c hc))
    have hl : (s.missed db).ledger = db.ledger := by
      rw [Scan.ledger_missed, Ledger.void_of_fresh hf]
    exact ⟨hl ▸ h.balanced, hl ▸ h.labelled, hl ▸ h.named, h.nulls⟩

end Consistent

theorem Interrupted.consistent {T : Set Subject} (hT : T.InjOn (Subject.receivingId py))
    (h : Interrupted py T w) : Consistent py T w.db := by
  induction h
  case empty w hw =>
    rw [hw]
    exact .empty
  case upsert w w' now items _ hn hstep ih =>
    obtain ⟨db, hu, rfl⟩ := Event.step_upsert_iff.mp hstep
    have hl := Db.ledger_upsertItems hu
    constructor
    case balanced => exact hl ▸ ih.balanced.list
    case labelled => exact hl ▸ ih.labelled
    case named    =>
      show "" ∉ db.ledger.listed
      rw [hl]
      exact fun h => h.elim ih.named hn
    case nulls    => exact (Db.upsertItems_eq_ok hu).1.nulls ih.nulls
  case sync hstep ih =>
    have ⟨hp, hl⟩ := sync_step hstep
    exact ⟨hl ▸ ih.balanced, hl ▸ ih.labelled, hl ▸ ih.named, hp ▸ ih.nulls⟩
  case scan hs hstep ih =>
    cases hstep
    case stopped hsteps =>
      cases Scan.cut_of_steps hsteps
      case before         => exact ih
      case alreadyScanned => exact ih
      case saved hsave hsettle =>
        have hc := ih.saves hT hs hsave
        have hl := Scan.ledger_settles hsettle
        have hp := Scan.poInventory_settles hsettle
        exact ⟨hl ▸ hc.balanced, hl ▸ hc.labelled, hl ▸ hc.named, hp ▸ hc.nulls⟩

-- The receipts of an inventory_id are the rows that are received under it.
theorem existsUnique_receipt_iff {db : Db} {id : String} :
    (∃! c, c ∈ db.ledger.receipts ∧ c.inventoryId = id) ↔
      ∃! ri, ri ∈ db.receivingItems.rows ∧ ri.matchStatus = .received ∧ ri.inventoryId = id := by
  constructor
  case mp =>
    rintro ⟨_, ⟨⟨ri, hr, hs, rfl⟩, hid⟩, hu⟩
    refine ⟨ri, ⟨hr, hs, hid⟩, fun ri' ⟨hr', hs', hid'⟩ => ?_⟩
    have hc := hu ri'.receipt ⟨⟨ri', hr', hs', rfl⟩, hid'⟩
    have hk : ri'.key = ri.key := congrArg (fun c : Receipt => some c.receivingId) hc
    exact Relational.Table.eq_of_key_eq hr' hr hk rfl
  case mpr =>
    intro ⟨ri, ⟨hr, hs, hid⟩, hu⟩
    refine ⟨ri.receipt, ⟨⟨ri, hr, hs, rfl⟩, hid⟩, ?_⟩
    rintro _ ⟨⟨ri', hr', hs', rfl⟩, hid'⟩
    rw [hu ri' ⟨hr', hs', hid'⟩]

-- Whatever stops the scans: a unit of the catalog is claimed if and only if it has one receipt.
theorem Interrupted.claimed_iff_receipt {T : Set Subject} (hT : T.InjOn (Subject.receivingId py))
    (h : Interrupted py T w) {row : PoRow} (hr : row ∈ w.db.poInventory.rows) :
    row.claimedAt ≠ none ↔ ∃! ri, ri ∈ w.db.receivingItems.rows ∧ ri.matchStatus = .received ∧
      row.inventoryId = some ri.inventoryId := by
  have hc := h.consistent hT
  cases hid : row.inventoryId
  case none =>
    simp [hc.nulls row hr hid, ExistsUnique]
  case some id =>
    have hf : w.db.poInventory.find id = some row :=
      Relational.Table.find_eq_some_iff.mpr ⟨hr, hid⟩
    have hm : row.claimedAt ≠ none ↔ id ∈ w.db.ledger.claimed := by
      simp [Db.mem_claimed_iff, Db.claimOf, hf, Option.isSome_iff_ne_none]
    rw [hm, hc.balanced.claimed_iff, existsUnique_receipt_iff]
    simp only [Option.some.injEq, eq_comm]

-- The only unit of the catalog is scanned, and its row with it.
theorem claimed_iff_receipt_sample :
    let w := Scan.sample.after .oneUnit
    let row : PoRow := ⟨some "1", "P", "A", none, none, none, none, sampleTime, some sampleTime⟩
    row.claimedAt ≠ none ↔ ∃! ri, ri ∈ w.db.receivingItems.rows ∧ ri.matchStatus = .received ∧
      row.inventoryId = some ri.inventoryId := by
  have hT : Set.InjOn (Subject.receivingId .ascii) {("P", "", "A"), ("P", "1", "A")} := by
    rintro t (rfl | rfl) t' (rfl | rfl) h
    all_goals first | rfl | exact absurd h (by decide +kernel)
  have h₁ : Interrupted .ascii {("P", "", "A"), ("P", "1", "A")} .oneUnit :=
    .upsert (.empty rfl) (by simp [Db.itemIds, LineItem.unit])
      (Event.step_loaded (by decide +kernel))
  have ha : Scan.sample.answer .oneUnit = some .received := by decide +kernel
  obtain ⟨r, hc, _⟩ := Scan.completes_of_answer ha
  have hrow : ∀ row ∈ World.oneUnit.db.poInventory.rows, row.inventoryId = some "1" := by
    decide +kernel
  have h₂ : Interrupted .ascii {("P", "", "A"), ("P", "1", "A")} (Scan.sample.after .oneUnit) := by
    refine .scan h₁ ?_ (.stopped (Scan.returns_iff.mpr hc))
    rintro id (rfl | ⟨row, hr, hid⟩)
    · exact .inl rfl
    · cases (hrow row hr).symm.trans hid
      exact .inr rfl
  exact h₂.claimed_iff_receipt hT (by decide +kernel)

end ReceivingApp
