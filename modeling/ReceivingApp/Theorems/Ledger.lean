import ReceivingApp.Spec.Ledger
import ReceivingApp.Theorems.Runs

open Interaction

namespace ReceivingApp

variable {py : PyStd}

def ItemRow.receipt (row : ItemRow) : Receipt where
  receivingId   := row.receivingId
  purchaseOrder := row.purchaseOrder
  inventoryId   := row.inventoryId
  serial        := row.serial

def ReceivingRecord.receipt (r : ReceivingRecord) : Receipt where
  receivingId   := r.receivingId
  purchaseOrder := r.purchaseOrder
  inventoryId   := r.inventoryId
  serial        := r.serial

theorem ItemRow.Carries.receipt {row : ItemRow} {r : ReceivingRecord} (h : row.Carries r) :
    row.receipt = r.receipt :=
  Receipt.ext h.receivingId h.purchaseOrder h.inventoryId h.serial

namespace Db

-- The ledger a database keeps.
def ledger (db : Db) : Ledger where
  listed   := { id | (db.poInventory.find id).isSome }
  claimed  := { id | (claimOf db.poInventory id).isSome }
  receipts := { c | ∃ row ∈ db.receivingItems.rows, row.matchStatus = .received ∧ row.receipt = c }

variable {db db' : Db} {now claimedAt id rid : String} {r : ReceivingRecord} {c c' : Receipt}

theorem mem_listed_iff : id ∈ db.ledger.listed ↔ (db.poInventory.find id).isSome :=
  Iff.rfl

theorem mem_claimed_iff : id ∈ db.ledger.claimed ↔ (claimOf db.poInventory id).isSome :=
  Iff.rfl

theorem mem_receipts_iff :
    c ∈ db.ledger.receipts ↔
      ∃ row ∈ db.receivingItems.rows, row.matchStatus = .received ∧ row.receipt = c :=
  Iff.rfl

theorem listed_of_claimed (h : id ∈ db.ledger.claimed) : id ∈ db.ledger.listed := by
  rw [mem_claimed_iff, claimOf] at h
  exact Option.isSome_of_isSome_bind h

-- ### Calls

theorem ledger_setEmitted : (db.setEmitted now rid).ledger = db.ledger := by
  refine Ledger.ext rfl rfl (Set.ext fun c => ?_)
  have hm (row : ItemRow) : (if row.receivingId = rid then row.marked now else row).matchStatus =
      row.matchStatus ∧ (if row.receivingId = rid then row.marked now else row).receipt =
      row.receipt := by
    split <;> exact ⟨rfl, rfl⟩
  simp only [mem_receipts_iff, mem_setEmitted]
  constructor
  case mp =>
    rintro ⟨_, ⟨row, hr, rfl⟩, hs, hc⟩
    exact ⟨row, hr, (hm row).1 ▸ hs, (hm row).2 ▸ hc⟩
  case mpr =>
    intro ⟨row, hr, hs, hc⟩
    exact ⟨_, ⟨row, hr, rfl⟩, (hm row).1.trans hs, (hm row).2.trans hc⟩

theorem mem_receipts_saveRecord_iff :
    c ∈ (db.saveRecord now r).ledger.receipts ↔
      (r.matchStatus = .received ∧ c = r.receipt) ∨
        c ∈ (db.ledger.void r.receivingId).receipts := by
  constructor
  case mp =>
    rintro ⟨row, hr, hs, rfl⟩
    rcases mem_saveRecord hr with h | ⟨h, hne⟩
    · exact .inl ⟨h.matchStatus ▸ hs, h.receipt⟩
    · exact .inr ⟨⟨row, h, hs, rfl⟩, hne⟩
  case mpr =>
    rintro (⟨hs, rfl⟩ | ⟨⟨row, hr, hs, rfl⟩, hne⟩)
    · have ⟨row, hf, hc, _⟩ := find_saveRecord_self db now r
      exact ⟨row, Relational.Table.mem_of_find hf, hc.matchStatus.trans hs, hc.receipt⟩
    · exact ⟨row, mem_saveRecord_of_ne hr hne, hs, rfl⟩

theorem ledger_saveRecord_of_ne (h : r.matchStatus ≠ .received) :
    (db.saveRecord now r).ledger = db.ledger.void r.receivingId :=
  Ledger.ext rfl rfl (Set.ext fun c => by simp [mem_receipts_saveRecord_iff, h])

theorem claimOf_claim {id' : String} :
    (claimOf (db.claim (some id') claimedAt).poInventory id).isSome ↔
      (claimOf db.poInventory id).isSome ∨ ((db.poInventory.find id).isSome ∧ id = id') := by
  rw [claimOf, claimOf, find_claim]
  cases hf : db.poInventory.find id
  case none     => simp
  case some row =>
    have hid : row.inventoryId = some id := Relational.Table.key_of_find hf
    by_cases hi : id = id' <;> cases hc : row.claimedAt <;> simp [hid, hi, hc]

theorem ledger_claimAndSave (h : r.matchStatus = .received) :
    (db.claimAndSave (some r.inventoryId) claimedAt now r).ledger = db.ledger.book r.receipt := by
  refine Ledger.ext (Set.ext fun id => ?_) (Set.ext fun id => ?_) (Set.ext fun c => ?_)
  · show ((db.claim (some r.inventoryId) claimedAt).poInventory.find id).isSome ↔ _
    rw [find_claim, Option.isSome_map]
    exact Iff.rfl
  · exact claimOf_claim
  · rw [claimAndSave, mem_receipts_saveRecord_iff]
    simp only [h, true_and]
    exact Iff.rfl

theorem ledger_upsertItems {items : List LineItem} (h : db.upsertItems now items = .ok db') :
    db'.ledger = db.ledger.list (itemIds items) := by
  have ⟨hl, hr⟩ := upsertItems_eq_ok h
  refine Ledger.ext (Set.ext hl.listed) (Set.ext fun id => ?_) ?_
  · rw [mem_claimed_iff, hl.claims]
    exact Iff.rfl
  · simp only [ledger, hr]
    rfl

theorem ledger_replacePoItems {items : List LineItem} (h : db.replacePoItems now items = .ok db') :
    db'.ledger = db.ledger.relist (itemIds items) := by
  have ⟨hl, hr⟩ := replacePoItems_eq_ok h
  refine Ledger.ext (Set.ext fun id => ?_) (Set.ext fun id => ?_) ?_
  · rw [mem_listed_iff, hl.listed]
    simp [Relational.Table.find, Relational.Table.empty, Ledger.relist]
  · rw [mem_claimed_iff, hl.claims]
    simp [claimOf, Relational.Table.find, Relational.Table.empty, Ledger.relist]
  · simp only [ledger, hr]
    rfl

theorem findClaimedBySerial_isSome_iff {po serial : String} :
    (db.findClaimedBySerial po serial).isSome ↔
      ∃ c ∈ db.ledger.receipts, c.purchaseOrder = po ∧ c.serial = serial ∧
        c.inventoryId ∈ db.ledger.listed := by
  rw [findClaimedBySerial, List.findSome?_isSome_iff]
  constructor
  case mp =>
    intro ⟨ri, hr, hf⟩
    split at hf
    case isTrue h =>
      rw [Option.isSome_map] at hf
      exact ⟨ri.receipt, ⟨ri, hr, h.2.2, rfl⟩, h.1, h.2.1, hf⟩
    case isFalse h => cases hf
  case mpr =>
    rintro ⟨_, ⟨ri, hr, hs, rfl⟩, hpo, hserial, hl⟩
    refine ⟨ri, hr, ?_⟩
    rw [if_pos ⟨hpo, hserial, hs⟩, Option.isSome_map]
    exact hl

end Db

-- The calls that concern neither the catalog nor the receipts.
def Port.KeepsLedger : ∀ β, Port β → Prop
  | _, .upsertItems ..    => False
  | _, .saveRecord ..     => False
  | _, .clearPoItems      => False
  | _, .replacePoItems .. => False
  | _, .claim ..          => False
  | _, .claimAndSave ..   => False
  | _, _                  => True

theorem World.env_keepsLedger {β : Type} {op : Port β} {x : Except PyExc β} {w w' : World}
    (hop : Port.KeepsLedger β op) (h : World.env β op w x w') :
    w'.db.poInventory = w.db.poInventory ∧ w'.db.ledger = w.db.ledger := by
  cases x
  case error e => rw [World.env_error h]; exact ⟨rfl, rfl⟩
  case ok b =>
    rw [World.env_ok_iff] at h
    cases op
    case upsertItems | saveRecord | clearPoItems | replacePoItems | claim | claimAndSave =>
      cases hop
    case markEmitted now id =>
      obtain ⟨db, hm, rfl⟩ := Event.transact_ok_iff.mp h
      cases Db.markEmitted_eq_ok hm
      exact ⟨rfl, Db.ledger_setEmitted⟩
    case emit | surfaceAttention => cases h; exact ⟨by simp, by simp⟩
    all_goals cases h; exact ⟨rfl, rfl⟩

-- ### Scans

namespace Scan

variable {s : Scan py} {db db' : Db} {w w' : World} {r : ReceivingRecord} {row : PoRow}
  {id : String} {q : ServiceM ReceivingRecord}

theorem mem_of_target (h : s.target db = some row) :
    row ∈ db.poInventory.rows ∧ row.purchaseOrder = s.poNumber ∧ row.claimedAt = none :=
  Db.mem_unclaimedForPo.mp (mem_of_resolveRow h)

theorem find_of_target (h : s.target db = some row) (hid : row.inventoryId = some id) :
    db.poInventory.find id = some row :=
  Relational.Table.find_eq_some_iff.mpr ⟨(mem_of_target h).1, hid⟩

-- A scan only goes for units of the catalog that nobody has claimed.
theorem listed_of_target (h : s.target db = some row) (hid : row.inventoryId = some id) :
    id ∈ db.ledger.listed := by
  simp [Db.mem_listed_iff, find_of_target h hid]

theorem not_claimed_of_target (h : s.target db = some row) (hid : row.inventoryId = some id) :
    id ∉ db.ledger.claimed := by
  simp [Db.mem_claimed_iff, Db.claimOf, find_of_target h hid, (mem_of_target h).2.2]

theorem duplicate_isSome_iff :
    (s.duplicate db).isSome ↔ s.serial ≠ "" ∧ ∃ c ∈ db.ledger.receipts,
      c.purchaseOrder = s.poNumber ∧ c.serial = s.serial ∧ c.inventoryId ∈ db.ledger.listed := by
  by_cases hs : s.serial = ""
  case pos => simp [duplicate, hs]
  case neg => simp [duplicate, hs, Db.findClaimedBySerial_isSome_iff]

theorem ledger_claimed :
    (s.claimed row id db).ledger = db.ledger.book (s.received row id).receipt :=
  Db.ledger_claimAndSave rfl

theorem ledger_missed : (s.missed db).ledger = db.ledger.void s.noMatch.receivingId :=
  Db.ledger_saveRecord_of_ne (by simp [noMatch, noMatchRecord])

theorem ledger_settle : (s.settle r w).db.ledger = w.db.ledger := by
  rw [settle]
  split
  · rfl
  · exact Db.ledger_setEmitted

theorem ledger_settles (h : Settles s r w w' q) : w'.db.ledger = w.db.ledger := by
  cases h
  case before  => rfl
  case emitted => rw [World.emit_db]
  case settled => exact ledger_settle

theorem poInventory_settles (h : Settles s r w w' q) : w'.db.poInventory = w.db.poInventory := by
  cases h
  case before  => rfl
  case emitted => rw [World.emit_db]
  case settled =>
    rw [settle]
    split <;> rfl

end Scan
end ReceivingApp
