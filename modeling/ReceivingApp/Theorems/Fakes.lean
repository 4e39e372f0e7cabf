import ReceivingApp.Tests.Fakes.FakeDb
import ReceivingApp.Theorems.Database
import Mathlib.Data.List.Induction

open Relational

namespace ReceivingApp

variable {repo : FakeRepository} {db : Db} {now id : String} {item : CatalogItem}
variable {items : List CatalogItem} {d : OrderedDict String FakeItem}
variable {t : Table PoRow.inventoryId}

-- ### Insertions of items

def CatalogItem.poRow (now : String) (item : CatalogItem) : PoRow where
  inventoryId   := some item.inventoryId
  purchaseOrder := item.purchaseOrder
  modelNumber   := item.modelNumber
  description   := item.description
  brand         := item.brand
  vendor        := item.vendor
  tags          := item.tags
  createdAt     := item.createdAt.getD now
  claimedAt     := none

def insertCatalog (now : String) (t : Table PoRow.inventoryId) (item : CatalogItem) :
    Table PoRow.inventoryId :=
  t.upsert (item.poRow now) (Db.updateRow (item.poRow now)) (Db.inventoryId_updateRow _ ·)

theorem insertItem_lineItem (op : String) :
    Db.insertItem op now t item.lineItem = .ok (insertCatalog now t item) := by
  have hr : Db.newRow op now item.lineItem = .ok (item.poRow now) := by
    cases h : item.createdAt
    all_goals
      simp [Db.newRow, CatalogItem.lineItem, CatalogItem.poRow, Db.subscript, Db.notNull, h, bind,
        Except.bind, pure, Except.pure]
  simp only [Db.insertItem, hr, bind, Except.bind, pure, Except.pure]
  rfl

-- Items that are well formed are all inserted.
theorem foldlM_insertItem (op : String) :
    (items.map (·.lineItem)).foldlM (Db.insertItem op now) t =
      .ok (items.foldl (insertCatalog now) t) := by
  induction items generalizing t
  case nil => rfl
  case cons item items ih =>
    rw [List.map_cons, List.foldlM_cons, insertItem_lineItem]
    exact ih

-- The database after items were inserted.
def Db.stored (now : String) (items : List CatalogItem) (db : Db) : Db := { db with
  poInventory := items.foldl (insertCatalog now) db.poInventory
}

theorem Db.call_upsertItems (db : Db) :
    db.call now (.upsertItems items) = .ok (db.stored now items) := by
  simp only [call, upsertItems, foldlM_insertItem]
  rfl

theorem Db.call_replacePoItems (db : Db) :
    db.call now (.replacePoItems items) = .ok (db.clearPoItems.stored now items) := by
  simp only [call, replacePoItems, foldlM_insertItem]
  rfl

theorem Db.call_saveRecord {r : ReceivingRecord} (h : r.quantity < 2 ^ 63) :
    db.call now (.saveRecord r) = .ok (db.saveRecord now r) :=
  if_pos h

theorem Db.call_claimAndSave {r : ReceivingRecord} {claimedAt : String} (h : r.quantity < 2 ^ 63) :
    db.call now (.claimAndSave id claimedAt r) =
      .ok (db.claimAndSave (some id) claimedAt now r) :=
  if_pos h

theorem claimOf_insertCatalog (now : String) :
    Db.claimOf (insertCatalog now t item) id = Db.claimOf t id :=
  (Db.loads_of_insertItem (insertItem_lineItem "upsert_items")).claims id

theorem claimOf_foldl (now : String) :
    Db.claimOf (items.foldl (insertCatalog now) t) id = Db.claimOf t id :=
  (Db.loads_of_foldlM (foldlM_insertItem "upsert_items")).claims id

-- ### The relation of the repositories

structure ItemMatches (item : FakeItem) (row : PoRow) : Prop where
  inventoryId   : row.inventoryId = some item.inventoryId
  purchaseOrder : row.purchaseOrder = item.purchaseOrder
  claimedAt     : row.claimedAt = item.claimedAt

structure RecordMatches (record : FakeRecord) (row : ItemRow) : Prop where
  receivingId   : row.receivingId = record.receivingId
  purchaseOrder : row.purchaseOrder = record.purchaseOrder
  inventoryId   : row.inventoryId = record.inventoryId
  serial        : row.serial = record.serial
  matchStatus   : row.matchStatus = record.matchStatus
  emitted       : row.emitted = record.emitted

structure Matches (repo : FakeRepository) (db : Db) : Prop where
  items    : Mirrors ItemMatches repo.poItems db.poInventory
  records  : Mirrors RecordMatches repo.records db.receivingItems
  mappings : Mirrors (fun m row => row.modelNumber = m.modelNumber) repo.barcodeMap
    db.barcodeModelMap

theorem matches_empty : Matches .empty .empty where
  items    := .empty
  records  := .empty
  mappings := .empty

-- ### What a call does to both

-- The fake forgets the claim of an item that is stored again.
theorem mirrors_foldl (h : Mirrors ItemMatches d t)
    (hc : ∀ item ∈ items, Db.claimOf t item.inventoryId = none) :
    Mirrors ItemMatches (items.foldl FakeRepository.storeItem d)
      (items.foldl (insertCatalog now) t) := by
  induction items generalizing d t
  case nil => exact h
  case cons item items ih =>
    refine ih ?_ fun item' hi => (claimOf_insertCatalog now).trans (hc item' (.tail item hi))
    have hn := hc item (.head items)
    refine h.set_upsert _ rfl (fun _ => ⟨rfl, rfl, rfl⟩) fun r hr => ?_
    have hid : r.inventoryId = some item.inventoryId := Table.key_of_find hr
    refine ⟨hid, rfl, ?_⟩
    show r.claimedAt = none
    simpa [Db.claimOf, hr] using hn

-- Where the unit is not open, the database does not change.
theorem Db.claim_eq_self {claimedAt : String}
    (hn : ∀ row, db.poInventory.find id = some row → row.claimedAt ≠ none) :
    db.claim (some id) claimedAt = db := by
  unfold Db.claim
  rw [Table.modify_eq_self fun row hr => ?_]
  simp only [Db.isOpenSlot, decide_eq_true_eq]
  intro hopen
  exact hn row (Table.find_eq_some_iff.mpr ⟨hr, hopen.2.1⟩) hopen.2.2

theorem Matches.claim (h : Matches repo db) {claimedAt : String} :
    Matches (repo.claim id claimedAt) (db.claim (some id) claimedAt) := by
  have hrel := h.items.rel_find id
  unfold FakeRepository.claim
  split
  case h_1 item hg =>
    rw [hg] at hrel
    cases hr : db.poInventory.find id
    case none => simp [hr] at hrel
    case some row =>
      rw [hr, Option.rel_some_some] at hrel
      split
      case isTrue hc =>
        have hs : (repo.poItems.get? id).isSome := by simp [hg]
        refine ⟨h.items.set_modify ?_ hs (fun row hp => ?_) fun row' hr' => ?_, h.records,
          h.mappings⟩
        case refine_1 => exact fun _ => rfl
        case refine_2 =>
          simp only [Db.isOpenSlot, decide_eq_true_eq] at hp
          exact hp.2.1
        case refine_3 =>
          cases hr.symm.trans hr'
          have ho : Db.isOpenSlot (some id) row := by
            simpa [Db.isOpenSlot, hrel.claimedAt, hc] using Table.key_of_find hr
          rw [if_pos ho]
          exact ⟨hrel.inventoryId, hrel.purchaseOrder, rfl⟩
      case isFalse hc =>
        rw [Db.claim_eq_self fun row' hr' => ?_]
        · exact h
        · cases hr.symm.trans hr'
          rwa [hrel.claimedAt]
  case h_2 hg =>
    rw [Db.claim_eq_self fun row hr => ?_]
    · exact h
    · simp [hg, hr] at hrel

theorem Matches.saveRecord (h : Matches repo db) {r : ReceivingRecord} :
    Matches (repo.saveRecord r) (db.saveRecord now r) where
  items    := h.items
  mappings := h.mappings
  records  := by
    have hrel := h.records.rel_find r.receivingId
    refine h.records.set_upsert _ rfl (fun hn => ?_) fun row hr => ?_
    case refine_1 =>
      rw [hn] at hrel
      cases hg : repo.records.get? r.receivingId
      case none   => exact ⟨rfl, rfl, rfl, rfl, rfl, rfl⟩
      case some _ => simp [hg] at hrel
    case refine_2 =>
      rw [hr] at hrel
      cases hg : repo.records.get? r.receivingId
      case none => simp [hg] at hrel
      case some existing =>
        rw [hg, Option.rel_some_some] at hrel
        have hid : row.receivingId = r.receivingId := ItemRow.receivingId_of_find hr
        exact ⟨hid, rfl, rfl, rfl, rfl, hrel.emitted⟩

theorem Matches.markEmitted (h : Matches repo db) :
    (repo.markEmitted id).isOk = (db.markEmitted now id).isOk ∧
    Matches (afterCall repo (repo.markEmitted id)) (afterCall db (db.markEmitted now id)) := by
  have hrel := h.records.rel_find id
  unfold FakeRepository.markEmitted Db.markEmitted
  split
  case h_1 record hg =>
    rw [hg] at hrel
    cases hr : db.receivingItems.find id
    case none => simp [hr] at hrel
    case some row =>
      rw [hr, Option.rel_some_some] at hrel
      have hs : (repo.records.get? id).isSome := by simp [hg]
      refine ⟨rfl, h.items, h.records.set_modify ?_ hs (fun row hp => ?_) fun row' hr' => ?_,
        h.mappings⟩
      case refine_1 => exact ItemRow.key_marked now
      case refine_2 => simpa [ItemRow.key] using hp
      case refine_3 =>
        cases hr.symm.trans hr'
        rw [if_pos (by simpa using ItemRow.receivingId_of_find hr)]
        exact { hrel with emitted := rfl }
  case h_2 hg =>
    cases hr : db.receivingItems.find id
    case some row => simp [hg, hr] at hrel
    case none     => exact ⟨rfl, h⟩

theorem Matches.saveBarcodeMapping (h : Matches repo db) {raw model source : String} {x : PyFloat} :
    Matches (repo.saveBarcodeMapping now raw model x source)
      (db.saveBarcodeMapping now raw model x source) where
  items    := h.items
  records  := h.records
  mappings := h.mappings.set_upsert _ rfl (fun _ => rfl) (fun _ _ => rfl)

-- ### Answers

-- What the list tells about its members, whatever their order and number.
abbrev told {α κ : Type} (f : α → κ) (l : List α) : Set κ :=
  {k | ∃ a ∈ l, f a = k}

-- Every query is answered alike, and `mark_emitted` raises on both sides or on none.
structure Agree (repo : FakeRepository) (db : Db) : Prop where
  getPurchaseOrder : ∀ po, told (some ·.inventoryId) (repo.getPurchaseOrder po) =
    told (·.inventoryId) (db.getPurchaseOrder po)
  unclaimedForPo : ∀ po, told (some ·.inventoryId) (repo.unclaimedForPo po) =
    told (·.inventoryId) (db.unclaimedForPo po)
  claimedForPo : ∀ po, told (some ·.inventoryId) (repo.claimedForPo po) =
    told (·.inventoryId) (db.claimedForPo po)
  countPoItems : repo.countPoItems = db.countPoItems
  wasEmitted : ∀ id, repo.wasEmitted id = db.wasEmitted id
  getPending : told (·.receivingId) repo.getPending = told (·.receivingId) db.getPending
  findClaimedBySerial : ∀ po serial, (repo.findClaimedBySerial po serial).map (·.inventoryId) =
    (db.findClaimedBySerial po serial).map (·.inventoryId)
  lookupBarcodeMapping : ∀ raw, repo.lookupBarcodeMapping raw = db.lookupBarcodeMapping raw
  markEmitted : ∀ now id, (repo.markEmitted id).isOk = (db.markEmitted now id).isOk

-- The first received record of every PO and serial is of a unit in the catalog.
def Db.SerialsInCatalog (db : Db) : Prop :=
  ∀ po serial row, db.receivingItems.rows.find? (·.isReceived po serial) = some row →
    (db.poInventory.find row.inventoryId).isSome

-- No item that is stored again is one of a claimed unit.
def Db.KeepsClaims (db : Db) : RepositoryCall → Prop
  | .upsertItems items =>
    ∀ item ∈ items, ∀ row, db.poInventory.find item.inventoryId = some row → row.claimedAt = none
  | _ => True

-- The record that a call saves.
def RepositoryCall.saved? : RepositoryCall → Option ReceivingRecord
  | .saveRecord record | .claimAndSave _ _ record => some record
  | _                                             => none

-- Its quantity is one that the database can hold.
def RepositoryCall.Fits (c : RepositoryCall) : Prop :=
  ∀ record ∈ c.saved?, record.quantity < 2 ^ 63

-- It fits, unless there is no row for it yet.
def Db.FitsIfStored (db : Db) (c : RepositoryCall) : Prop :=
  ∀ record ∈ c.saved?,
    record.quantity < 2 ^ 63 ∨ db.receivingItems.find record.receivingId = none

theorem told_eq_of_map_eq {α β κ : Type} {f : α → κ} {g : β → κ} {l : List α} {l' : List β}
    (h : l'.map g = l.map f) : told f l = told g l' := by
  ext k
  have hk : k ∈ l'.map g ↔ k ∈ l.map f := by rw [h]
  simpa using hk.symm

theorem isSome_find_of_joined {po serial : String} {ri : ItemRow} {c : ClaimedRow}
    (h : db.joined po serial ri = some c) : (db.poInventory.find c.inventoryId).isSome := by
  unfold Db.joined at h
  split at h
  case isFalse => cases h
  case isTrue =>
    obtain ⟨pi, hp, rfl⟩ := Option.map_eq_some_iff.mp h
    exact Option.isSome_of_mem hp

-- The join skips the records of units that are not in the catalog.
theorem findSome_joined_eq_iff {po serial : String} {rows : List ItemRow} :
    (rows.findSome? (db.joined po serial)).map (·.inventoryId) =
        (rows.find? (·.isReceived po serial)).map (·.inventoryId) ↔
      ∀ row, rows.find? (·.isReceived po serial) = some row →
        (db.poInventory.find row.inventoryId).isSome := by
  induction rows
  case nil => simp
  case cons ri rows ih =>
    by_cases hr : ri.isReceived po serial
    case neg =>
      have hj : db.joined po serial ri = none := if_neg hr
      rwa [List.findSome?_cons, hj, List.find?_cons_of_neg hr]
    case pos =>
      have hj : db.joined po serial ri = (db.poInventory.find ri.inventoryId).map (.ofJoin ri) :=
        if_pos hr
      rw [List.findSome?_cons, hj, List.find?_cons_of_pos hr]
      cases hp : db.poInventory.find ri.inventoryId
      case some pi => simp [hp, ClaimedRow.ofJoin]
      case none =>
        refine iff_of_false (fun he => ?_) fun h => by simpa [hp] using h ri rfl
        obtain ⟨c, hc, hi⟩ := Option.map_eq_some_iff.mp he
        obtain ⟨ri', _, hj'⟩ := List.exists_of_findSome?_eq_some hc
        have hs := isSome_find_of_joined hj'
        rw [hi, hp] at hs
        cases hs

-- ### Agreement

namespace Matches

-- The first received record of a PO and serial is the same on both sides.
theorem find_isReceived (h : Matches repo db) (po serial : String) :
    (repo.findClaimedBySerial po serial).map (·.inventoryId) =
      (db.receivingItems.rows.find? (·.isReceived po serial)).map (·.inventoryId) := by
  have hm := h.records.map_filter_eq (f := (·.inventoryId)) (g := (·.inventoryId))
    (p := fun rec =>
      decide (rec.purchaseOrder = po ∧ rec.serial = serial ∧ rec.matchStatus = .received))
    (q := (·.isReceived po serial))
    (fun rec row hr => by
      simp [ItemRow.isReceived, hr.purchaseOrder, hr.serial, hr.matchStatus])
    (fun rec row hr => hr.inventoryId)
  rw [← List.head?_filter, ← List.head?_map, hm, List.head?_map, List.head?_filter]
  unfold FakeRepository.findClaimedBySerial
  rw [Option.map_map]
  rfl

theorem wasEmitted (h : Matches repo db) (id : String) : repo.wasEmitted id = db.wasEmitted id := by
  have hrel := h.records.rel_find id
  unfold FakeRepository.wasEmitted Db.wasEmitted
  generalize repo.records.get? id = existing at hrel
  generalize db.receivingItems.find id = row at hrel
  cases hrel
  case some hr => exact hr.emitted.symm
  case none    => rfl

theorem lookupBarcodeMapping (h : Matches repo db) (raw : String) :
    repo.lookupBarcodeMapping raw = db.lookupBarcodeMapping raw := by
  have hrel := h.mappings.rel_find raw
  unfold FakeRepository.lookupBarcodeMapping Db.lookupBarcodeMapping
  generalize repo.barcodeMap.get? raw = entry at hrel
  generalize db.barcodeModelMap.find raw = row at hrel
  cases hrel
  case some hr => exact congrArg some hr.symm
  case none    => rfl

-- Where the two sides match, they may differ in the answer to one query only.
theorem agree_iff (h : Matches repo db) : Agree repo db ↔ db.SerialsInCatalog := by
  constructor
  case mp =>
    intro ha po serial
    apply findSome_joined_eq_iff.mp
    rw [← Db.findClaimedBySerial_eq, ← ha.findClaimedBySerial, h.find_isReceived]
  case mpr =>
    intro hs
    exact {
      getPurchaseOrder po := told_eq_of_map_eq <| h.items.map_filter_eq
        (fun item row hr => by rw [hr.purchaseOrder]) (fun item row hr => hr.inventoryId)
      unclaimedForPo po := told_eq_of_map_eq <| h.items.map_filter_eq
        (fun item row hr => by rw [hr.purchaseOrder, hr.claimedAt])
        (fun item row hr => hr.inventoryId)
      claimedForPo po := told_eq_of_map_eq <| h.items.map_filter_eq
        (fun item row hr => by rw [hr.purchaseOrder, hr.claimedAt])
        (fun item row hr => hr.inventoryId)
      countPoItems := h.items.length_eq
      wasEmitted := h.wasEmitted
      getPending := told_eq_of_map_eq <| h.records.map_filter_eq
        (fun rec row hr => by rw [hr.emitted]) (fun rec row hr => hr.receivingId)
      findClaimedBySerial po serial := by
        rw [h.find_isReceived, Db.findClaimedBySerial_eq]
        exact (findSome_joined_eq_iff.mpr (hs po serial)).symm
      lookupBarcodeMapping := h.lookupBarcodeMapping
      markEmitted now id := h.markEmitted.1
    }

end Matches

-- ### Runs

theorem Matches.call (h : Matches repo db) {c : RepositoryCall} (hf : c.Fits)
    (hk : db.KeepsClaims c) : Matches (afterCall repo (repo.call now c)) (afterCall db (db.call now c)) := by
  cases c
  case upsertItems items =>
    rw [Db.call_upsertItems]
    refine ⟨mirrors_foldl h.items fun item hi => ?_, h.records, h.mappings⟩
    exact Option.bind_eq_none_iff.mpr (hk item hi)
  case saveRecord r =>
    rw [Db.call_saveRecord (hf r rfl)]
    exact h.saveRecord
  case markEmitted => exact h.markEmitted.2
  case clearPoItems => exact ⟨.empty, h.records, h.mappings⟩
  case replacePoItems items =>
    rw [Db.call_replacePoItems]
    exact ⟨mirrors_foldl .empty fun _ _ => rfl, h.records, h.mappings⟩
  case claim => exact h.claim
  case claimAndSave r =>
    rw [Db.call_claimAndSave (hf r rfl)]
    exact h.claim.saveRecord
  case saveBarcodeMapping => exact h.saveBarcodeMapping

theorem get?_foldl_storeItem (h : item ∈ items) :
    ∃ item' : CatalogItem, item'.inventoryId = item.inventoryId ∧
      (items.foldl FakeRepository.storeItem d).get? item.inventoryId = some { item' with } := by
  induction items using List.reverseRecOn
  case nil => cases h
  case append_singleton items last ih =>
    rw [List.foldl_append, List.foldl_cons, List.foldl_nil, FakeRepository.storeItem,
      OrderedDict.get?_set]
    by_cases hl : item.inventoryId = last.inventoryId
    case pos => exact ⟨last, hl.symm, if_pos hl⟩
    case neg =>
      rw [if_neg hl]
      refine ih ((List.mem_append.mp h).resolve_right fun hm => hl ?_)
      rw [List.mem_singleton.mp hm]

-- Where an item of a claimed unit is stored again, the fake takes the unit for unclaimed.
theorem keepsClaims_of_agree {c : RepositoryCall}
    (ha : Agree (afterCall repo (repo.call now c)) (afterCall db (db.call now c))) :
    db.KeepsClaims c := by
  cases c
  case upsertItems items =>
    rw [Db.call_upsertItems] at ha
    replace ha : Agree (repo.upsertItems items) (db.stored now items) := ha
    intro item hi row hr
    obtain ⟨item', hid, hg⟩ := get?_foldl_storeItem (d := repo.poItems) hi
    have hm : some item.inventoryId ∈ told (some ·.inventoryId)
        ((repo.upsertItems items).unclaimedForPo item'.purchaseOrder) := by
      refine ⟨{ item' with }, List.mem_filter.mpr ⟨?_, by simp⟩, congrArg some hid⟩
      exact OrderedDict.mem_values_of_get? hg
    rw [ha.unclaimedForPo] at hm
    obtain ⟨row', hr', hid'⟩ := hm
    have ⟨hmem, hp⟩ := List.mem_filter.mp hr'
    have hf : (items.foldl (insertCatalog now) db.poInventory).find item.inventoryId = some row' :=
      Table.find_eq_some_iff.mpr ⟨hmem, hid'⟩
    have hc : Db.claimOf (items.foldl (insertCatalog now) db.poInventory) item.inventoryId =
        Db.claimOf db.poInventory item.inventoryId :=
      claimOf_foldl now
    simp only [decide_eq_true_eq] at hp
    simpa [Db.claimOf, hf, hr, hp.2, eq_comm] using hc
  all_goals exact trivial

-- A record that is saved for the first time is pending for the fake.
theorem Matches.pending_saveRecord (h : Matches repo db) {r : ReceivingRecord}
    (hn : db.receivingItems.find r.receivingId = none) :
    r.receivingId ∈ told (·.receivingId) (repo.saveRecord r).getPending := by
  have hrel := h.records.rel_find r.receivingId
  rw [hn] at hrel
  have hg : repo.records.get? r.receivingId = none := by
    cases hg : repo.records.get? r.receivingId
    case none   => rfl
    case some _ => simp [hg] at hrel
  have hs : (repo.saveRecord r).records.get? r.receivingId = some (FakeRepository.store r none) := by
    rw [FakeRepository.saveRecord, OrderedDict.get?_set, if_pos rfl, hg]
  exact ⟨_, List.mem_filter.mpr ⟨OrderedDict.mem_values_of_get? hs, rfl⟩, rfl⟩

-- Where a new record does not fit, it is pending for the fake only.
theorem fits_of_agree {c : RepositoryCall} (h : Matches repo db) (hs : db.FitsIfStored c)
    (ha : Agree (afterCall repo (repo.call now c)) (afterCall db (db.call now c))) : c.Fits := by
  intro r hr
  by_contra hq
  have hn := (hs r hr).resolve_left hq
  have hdb : afterCall db (db.call now c) = db := by
    cases c
    case saveRecord | claimAndSave =>
      cases hr
      exact congrArg (afterCall db) (if_neg hq)
    all_goals cases hr
  have hrepo : r.receivingId ∈
      told (·.receivingId) (afterCall repo (repo.call now c)).getPending := by
    cases c
    case saveRecord   => cases hr; exact h.pending_saveRecord hn
    case claimAndSave => cases hr; exact h.claim.pending_saveRecord hn
    all_goals cases hr
  rw [ha.getPending, hdb] at hrepo
  obtain ⟨row, hm, hid⟩ := hrepo
  replace hid : row.receivingId = r.receivingId := hid
  have hf := ItemRow.mem_iff_find.mp (List.mem_of_mem_filter hm)
  rw [hid, hn] at hf
  cases hf

theorem FakeRepository.run_concat (calls : List (String × RepositoryCall))
    (c : String × RepositoryCall) :
    run (calls ++ [c]) = afterCall (run calls) ((run calls).call c.1 c.2) := by
  simp [run]

theorem Db.run_concat (calls : List (String × RepositoryCall)) (c : String × RepositoryCall) :
    run (calls ++ [c]) = afterCall (run calls) ((run calls).call c.1 c.2) := by
  simp [run]

-- ### The fake and the database

theorem matches_run {calls : List (String × RepositoryCall)} (hf : ∀ c ∈ calls, c.2.Fits)
    (h : ∀ pre c, pre ++ [c] <+: calls → (Db.run pre).KeepsClaims c.2) :
    Matches (FakeRepository.run calls) (Db.run calls) := by
  induction calls using List.reverseRecOn
  case nil => exact matches_empty
  case append_singleton calls c ih =>
    rw [FakeRepository.run_concat, Db.run_concat]
    refine (ih (fun c' hc' => hf c' (List.mem_append_left _ hc')) fun pre c' hp => ?_).call ?_ ?_
    case refine_1 => exact h pre c' (hp.trans (List.prefix_append calls [c]))
    case refine_2 => exact hf c (by simp)
    case refine_3 => exact h calls c (List.prefix_refl _)

-- Every query is answered by the fake as by the database after every call.
def AgreeAlong (calls : List (String × RepositoryCall)) : Prop :=
  ∀ pre, pre <+: calls → Agree (FakeRepository.run pre) (Db.run pre)

-- All that is saved fits, no item of a claimed unit is stored again, and the serials found are
-- always those of units in the catalog.
structure KeptAlike (calls : List (String × RepositoryCall)) : Prop where
  fits    : ∀ c ∈ calls, c.2.Fits
  claims  : ∀ pre c, pre ++ [c] <+: calls → (Db.run pre).KeepsClaims c.2
  serials : ∀ pre, pre <+: calls → (Db.run pre).SerialsInCatalog

section Along

variable {calls : List (String × RepositoryCall)}

theorem KeptAlike.matches (h : KeptAlike calls) {pre : List (String × RepositoryCall)}
    (hp : pre <+: calls) : Matches (FakeRepository.run pre) (Db.run pre) :=
  matches_run (fun c hc => h.fits c (hp.subset hc)) fun pre' c hp' => h.claims pre' c (hp'.trans hp)

theorem AgreeAlong.claims (h : AgreeAlong calls) {pre : List (String × RepositoryCall)}
    {c : String × RepositoryCall} (hp : pre ++ [c] <+: calls) : (Db.run pre).KeepsClaims c.2 := by
  have ha := h _ hp
  rw [FakeRepository.run_concat, Db.run_concat] at ha
  exact keepsClaims_of_agree ha

-- The first call that saves what does not fit would be the last one after which they agree.
theorem AgreeAlong.fits (h : AgreeAlong calls)
    (hs : ∀ pre c, pre ++ [c] <+: calls → (Db.run pre).FitsIfStored c.2) :
    ∀ c ∈ calls, c.2.Fits := by
  suffices hpre : ∀ pre, pre <+: calls → ∀ c ∈ pre, c.2.Fits from hpre calls (List.prefix_refl _)
  intro pre
  induction pre using List.reverseRecOn
  case nil => simp
  case append_singleton pre c ih =>
    intro hp c' hc'
    have hpre : pre <+: calls := (List.prefix_append pre [c]).trans hp
    rcases List.mem_append.mp hc' with hc' | hc'
    case inl => exact ih hpre c' hc'
    case inr =>
      have hm : Matches (FakeRepository.run pre) (Db.run pre) :=
        matches_run (ih hpre) fun pre' c hp' => h.claims (hp'.trans hpre)
      have ha := h _ hp
      rw [FakeRepository.run_concat, Db.run_concat] at ha
      rw [List.mem_singleton.mp hc']
      exact fits_of_agree hm (hs pre c hp) ha

end Along

-- Where all is kept alike, the two agree. Where they agree, all is kept alike, unless a record that
-- does not fit is saved for a receiving_id that has a row: the fake overwrites it, the database
-- does not, and no query need show the difference.

def CatalogItem.sample : CatalogItem where
  inventoryId   := "1"
  purchaseOrder := "P"
  modelNumber   := "A"

-- The order is read from the source again after its unit was claimed.
def sampleCalls : List (String × RepositoryCall) :=
  [.upsertItems [.sample], .claim "1" sampleTime, .upsertItems [.sample]].map (sampleTime, ·)

end ReceivingApp
