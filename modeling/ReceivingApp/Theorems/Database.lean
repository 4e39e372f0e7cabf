import Mathlib.Data.Set.Insert
import ReceivingApp.Adapters.Db
import ReceivingApp.Lib.Except

open Relational

namespace ReceivingApp

-- A row carries a record when it says the same about what was scanned.
structure ItemRow.Carries (row : ItemRow) (r : ReceivingRecord) : Prop where
  receivingId   : row.receivingId = r.receivingId
  purchaseOrder : row.purchaseOrder = r.purchaseOrder
  inventoryId   : row.inventoryId = r.inventoryId
  modelNumber   : row.modelNumber = r.modelNumber
  matchStatus   : row.matchStatus = r.matchStatus
  serial        : row.serial = r.serial

theorem ItemRow.mem_iff_find {t : Table ItemRow.key} {row : ItemRow} :
    row ∈ t.rows ↔ t.find row.receivingId = some row := by
  simp [Table.find_eq_some_iff, ItemRow.key]

theorem ItemRow.receivingId_of_find {t : Table ItemRow.key} {id : String} {row : ItemRow}
    (h : t.find id = some row) : row.receivingId = id := by
  simpa [ItemRow.key] using Table.key_of_find h

-- The records `find_claimed_by_serial` looks at.
def ItemRow.isReceived (po serial : String) (row : ItemRow) : Bool :=
  row.purchaseOrder = po ∧ row.serial = serial ∧ row.matchStatus = .received

namespace Db

variable {db db' : Db} {now id po claimedAt : String} {r : ReceivingRecord} {row : ItemRow}

-- ### Records

theorem find_saveRecord :
    (db.saveRecord now r).receivingItems.find id =
      if r.receivingId = id then
        some ((db.receivingItems.find id).elim (.ofRecord now r) (.overwrite now r))
      else db.receivingItems.find id := by
  simp only [saveRecord, Table.find_upsert, ItemRow.key, ItemRow.ofRecord, Option.some.injEq]

theorem find_saveRecord_of_ne (h : r.receivingId ≠ id) :
    (db.saveRecord now r).receivingItems.find id = db.receivingItems.find id := by
  rw [find_saveRecord, if_neg h]

theorem find_saveRecord_self (db : Db) (now : String) (r : ReceivingRecord) :
    ∃ row, (db.saveRecord now r).receivingItems.find r.receivingId = some row ∧ row.Carries r ∧
      row.emitted = db.wasEmitted r.receivingId := by
  rw [find_saveRecord, if_pos rfl, wasEmitted]
  cases h : db.receivingItems.find r.receivingId
  case none     => exact ⟨_, rfl, ⟨rfl, rfl, rfl, rfl, rfl, rfl⟩, rfl⟩
  case some row =>
    have hid : row.receivingId = r.receivingId := ItemRow.receivingId_of_find h
    exact ⟨_, rfl, ⟨hid, rfl, rfl, rfl, rfl, rfl⟩, rfl⟩

-- A row of the table after a record was saved carries that record or was there before.
theorem mem_saveRecord :
    row ∈ (db.saveRecord now r).receivingItems.rows →
      row.Carries r ∨ (row ∈ db.receivingItems.rows ∧ row.receivingId ≠ r.receivingId) := by
  intro h
  rw [ItemRow.mem_iff_find] at h
  by_cases hr : r.receivingId = row.receivingId
  case pos =>
    have ⟨row', hf, hc, _⟩ := find_saveRecord_self db now r
    rw [← hr, hf] at h
    cases h
    exact .inl hc
  case neg =>
    rw [find_saveRecord_of_ne hr] at h
    exact .inr ⟨ItemRow.mem_iff_find.mpr h, Ne.symm hr⟩

theorem mem_saveRecord_of_ne (h : row ∈ db.receivingItems.rows)
    (hr : row.receivingId ≠ r.receivingId) : row ∈ (db.saveRecord now r).receivingItems.rows := by
  rw [ItemRow.mem_iff_find] at h ⊢
  rwa [find_saveRecord_of_ne hr.symm]

theorem wasEmitted_saveRecord : (db.saveRecord now r).wasEmitted id = db.wasEmitted id := by
  simp only [wasEmitted, find_saveRecord]
  by_cases h : r.receivingId = id
  case pos => cases hf : db.receivingItems.find id <;> simp [h, ItemRow.ofRecord, ItemRow.overwrite]
  case neg => simp [h]

-- ### Emission marks

theorem find_setEmitted {id' : String} :
    (db.setEmitted now id').receivingItems.find id = (db.receivingItems.find id).map (fun row =>
      if row.receivingId = id' then row.marked now else row) := by
  simp [setEmitted, Table.find_modify]

theorem mem_setEmitted {id' : String} :
    row ∈ (db.setEmitted now id').receivingItems.rows ↔ ∃ row' ∈ db.receivingItems.rows,
      (if row'.receivingId = id' then row'.marked now else row') = row := by
  simp [setEmitted, Table.mem_modify]

theorem wasEmitted_setEmitted_of_ne {id' : String} (h : id ≠ id') :
    (db.setEmitted now id').wasEmitted id = db.wasEmitted id := by
  simp only [wasEmitted, find_setEmitted]
  cases hf : db.receivingItems.find id
  case none     => rfl
  case some row =>
    have hn : row.receivingId ≠ id' := ItemRow.receivingId_of_find hf ▸ h
    simp [hn]

-- Nothing takes a mark back.
theorem wasEmitted_setEmitted_of_wasEmitted {id' : String} (h : db.wasEmitted id) :
    (db.setEmitted now id').wasEmitted id := by
  simp only [wasEmitted] at h
  simp only [wasEmitted, find_setEmitted]
  cases hf : db.receivingItems.find id
  case none     => simp [hf] at h
  case some row =>
    rw [hf] at h
    simp only [Option.map_some]
    split
    case isTrue  => rfl
    case isFalse => exact h

theorem markEmitted_of_isSome (h : (db.receivingItems.find id).isSome) :
    db.markEmitted now id = .ok (db.setEmitted now id) :=
  if_pos h

theorem markEmitted_eq_ok (h : db.markEmitted now id = .ok db') : db' = db.setEmitted now id := by
  simp only [markEmitted] at h
  split at h <;> cases h
  rfl

theorem isSome_of_markEmitted (h : db.markEmitted now id = .ok db') :
    (db.receivingItems.find id).isSome := by
  simp only [markEmitted] at h
  split at h
  case isTrue hs => exact hs
  case isFalse   => cases h

theorem wasEmitted_of_mem (h : row ∈ db.receivingItems.rows) :
    db.wasEmitted row.receivingId = row.emitted := by
  rw [wasEmitted, ItemRow.mem_iff_find.mp h]

theorem wasEmitted_of_mem_getPending (h : row ∈ db.getPending) :
    db.wasEmitted row.receivingId = false := by
  have ⟨hr, he⟩ := List.mem_filter.mp h
  rw [wasEmitted_of_mem hr]
  simpa using he

theorem wasEmitted_setEmitted {id' : String} (h : (db.receivingItems.find id').isSome) :
    (db.setEmitted now id').wasEmitted id ↔ db.wasEmitted id ∨ id' = id := by
  by_cases he : id = id'
  case neg => simp [wasEmitted_setEmitted_of_ne he, Ne.symm he]
  case pos =>
    have ⟨row, hf⟩ := Option.isSome_iff_exists.mp h
    have hid := ItemRow.receivingId_of_find hf
    simp [he, wasEmitted, find_setEmitted, hf, hid, ItemRow.marked]

-- A mark takes the row out of the pending ones and leaves the others in their order.
theorem getPending_setEmitted {id' : String} :
    (db.setEmitted now id').getPending =
      db.getPending.filter (fun row => row.receivingId ≠ id') := by
  simp only [getPending, setEmitted, Table.modify]
  generalize db.receivingItems.rows = rows
  induction rows
  case nil => rfl
  case cons row rows ih =>
    by_cases hi : row.receivingId = id' <;> by_cases he : row.emitted <;>
      simp_all [ItemRow.marked]

theorem nodup_getPending : (db.getPending.map (·.receivingId)).Nodup := by
  have hn : (db.receivingItems.rows.map (·.receivingId)).Nodup := by
    have h : (db.receivingItems.rows.filterMap (some ∘ ItemRow.receivingId)).Nodup :=
      db.receivingItems.nodup
    rwa [List.filterMap_eq_map] at h
  exact hn.sublist (List.filter_sublist.map _)

-- ### Claims

theorem mem_claim {row : PoRow} :
    row ∈ (db.claim (some id) claimedAt).poInventory.rows ↔ ∃ row' ∈ db.poInventory.rows,
      (if row'.inventoryId = some id ∧ row'.claimedAt = none then
        { row' with claimedAt := some claimedAt } else row') = row := by
  simp [claim, Table.mem_modify, isOpenSlot]

theorem find_claim {id' : String} :
    (db.claim (some id') claimedAt).poInventory.find id = (db.poInventory.find id).map (fun row =>
      if row.inventoryId = some id' ∧ row.claimedAt = none then
        { row with claimedAt := some claimedAt }
      else row) := by
  simp [claim, Table.find_modify, isOpenSlot]

-- Nothing is equal to NULL.
theorem claim_none (db : Db) (claimedAt : String) : db.claim none claimedAt = db := by
  unfold claim
  rw [Table.modify_eq_self fun row _ => by simp [isOpenSlot]]

-- A claim takes the row out of the open ones and leaves the others in their order.
theorem unclaimedForPo_claim :
    (db.claim (some id) claimedAt).unclaimedForPo po =
      (db.unclaimedForPo po).filter (fun row => row.inventoryId ≠ some id) := by
  simp only [unclaimedForPo, claim, Table.modify]
  generalize db.poInventory.rows = rows
  induction rows
  case nil => rfl
  case cons row rows ih =>
    by_cases hp : row.purchaseOrder = po <;> by_cases hc : row.claimedAt = none <;>
      by_cases hi : row.inventoryId = some id <;>
      simp_all [isOpenSlot]

theorem mem_unclaimedForPo {row : PoRow} :
    row ∈ db.unclaimedForPo po ↔
      row ∈ db.poInventory.rows ∧ row.purchaseOrder = po ∧ row.claimedAt = none := by
  simp [unclaimedForPo]

-- ### The serial lookup

-- What the join makes of a record.
def joined (db : Db) (po serial : String) (ri : ItemRow) : Option ClaimedRow :=
  if ri.isReceived po serial then (db.poInventory.find ri.inventoryId).map (.ofJoin ri) else none

theorem findClaimedBySerial_eq {serial : String} :
    db.findClaimedBySerial po serial = db.receivingItems.rows.findSome? (db.joined po serial) := by
  unfold findClaimedBySerial
  congr
  funext ri
  simp [joined, ItemRow.isReceived]

theorem joined_claim {serial : String} {inventoryId : Option String} :
    (db.claim inventoryId claimedAt).joined po serial = db.joined po serial := by
  cases inventoryId
  case none => rw [claim_none]
  case some id =>
    funext ri
    simp only [joined, find_claim, Option.map_map]
    congr 2
    funext row
    simp only [Function.comp_apply]
    split <;> rfl

theorem findClaimedBySerial_setEmitted {serial : String} :
    (db.setEmitted now id).findClaimedBySerial po serial = db.findClaimedBySerial po serial := by
  rw [findClaimedBySerial_eq, findClaimedBySerial_eq]
  apply Table.findSome?_modify
  case hf => exact ItemRow.key_marked now
  case h  => exact fun _ _ _ => rfl

-- ### Catalog loads

-- When the row of an inventory_id was claimed, if it is there and was.
def claimOf (t : Table PoRow.inventoryId) (id : String) : Option String :=
  (t.find id).bind (·.claimedAt)

-- The inventory_ids of a list of line items.
def itemIds (items : List LineItem) : Set String :=
  { id | ∃ item ∈ items, item.inventoryId = some (some id) }

-- What a load does to po_inventory: it adds rows, and leaves all claims as they are.
structure Loads (t : Table PoRow.inventoryId) (ids : Set String) (t' : Table PoRow.inventoryId) :
    Prop where
  listed : ∀ id, (t'.find id).isSome ↔ (t.find id).isSome ∨ id ∈ ids
  claims : ∀ id, claimOf t' id = claimOf t id
  nulls  : (∀ row ∈ t.rows, row.inventoryId = none → row.claimedAt = none) →
    ∀ row ∈ t'.rows, row.inventoryId = none → row.claimedAt = none

theorem newRow_eq_ok {op : String} {item : LineItem} {row : PoRow}
    (h : newRow op now item = .ok row) :
    item.inventoryId = some row.inventoryId ∧ row.claimedAt = none := by
  simp only [newRow, Except.bind_eq_ok] at h
  have ⟨inventoryId, hi, _, _, _, _, _, _, _, _, _, _, h⟩ := h
  cases h
  cases hid : item.inventoryId
  case none   => simp [subscript, hid] at hi
  case some v => simp_all [subscript]

theorem loads_of_insertItem {op : String} {item : LineItem} {t t' : Table PoRow.inventoryId}
    (h : insertItem op now t item = .ok t') : Loads t (itemIds [item]) t' := by
  have ⟨new, hn, h⟩ := Except.bind_eq_ok.mp h
  cases h
  have ⟨hi, hc⟩ := newRow_eq_ok hn
  constructor
  case listed =>
    intro id
    by_cases hk : new.inventoryId = some id <;> simp [Table.find_upsert, itemIds, hi, hk]
  case claims =>
    intro id
    by_cases hk : new.inventoryId = some id
    case pos => cases hf : t.find id <;> simp [claimOf, hk, hf, hc, updateRow]
    case neg => rw [claimOf, Table.find_upsert_of_ne hk, claimOf]
  case nulls =>
    intro h row hr hid
    rcases Table.mem_upsert hr with ⟨rfl, _⟩ | ⟨row', hr', _, rfl⟩ | ⟨hr, _⟩ | ⟨hr, _⟩
    · exact hc
    · exact h row' hr' hid
    · exact h row hr hid
    · exact h row hr hid

theorem loads_of_foldlM {op : String} {items : List LineItem} {t t' : Table PoRow.inventoryId}
    (h : items.foldlM (insertItem op now) t = .ok t') : Loads t (itemIds items) t' := by
  induction items generalizing t
  case nil =>
    cases h
    exact ⟨by simp [itemIds], fun _ => rfl, id⟩
  case cons item items ih =>
    rw [List.foldlM_cons] at h
    obtain ⟨t₁, hi, h⟩ := Except.bind_eq_ok.mp h
    have h₁ := loads_of_insertItem hi
    have h₂ := ih h
    constructor
    case listed => simp [h₁.listed, h₂.listed, itemIds, or_assoc]
    case claims => exact fun id => (h₂.claims id).trans (h₁.claims id)
    case nulls  => exact fun hn => h₂.nulls (h₁.nulls hn)

theorem upsertItems_eq_ok {items : List LineItem} (h : db.upsertItems now items = .ok db') :
    Loads db.poInventory (itemIds items) db'.poInventory ∧
      db'.receivingItems = db.receivingItems := by
  have ⟨t, hf, h⟩ := Except.bind_eq_ok.mp h
  cases h
  exact ⟨loads_of_foldlM hf, rfl⟩

theorem replacePoItems_eq_ok {items : List LineItem} (h : db.replacePoItems now items = .ok db') :
    Loads .empty (itemIds items) db'.poInventory ∧ db'.receivingItems = db.receivingItems := by
  have ⟨t, hf, h⟩ := Except.bind_eq_ok.mp h
  cases h
  exact ⟨loads_of_foldlM hf, rfl⟩

end Db
end ReceivingApp
