import ReceivingApp.Theorems.Matching
import ReceivingApp.Theorems.Resolution

open Interaction Relational

namespace ReceivingApp

variable {py : PyStd} {s : Scan py} {db db' : Db} {w w' : World} {po : String}

-- ### Catalogs in another order

-- The same database, with the catalog in any order, and with more open units of the purchase order
-- whose models it has open units of already.
structure Db.Rearranged (po : String) (db db' : Db) : Prop where
  receivingItems  : db'.receivingItems = db.receivingItems
  barcodeModelMap : db'.barcodeModelMap = db.barcodeModelMap
  poInventory     : ∃ more : List PoRow,
    db'.poInventory.rows.Perm (db.poInventory.rows ++ more) ∧
      ∀ row ∈ more, row.purchaseOrder = po ∧ row.claimedAt = none ∧
        ∃ row' ∈ db.unclaimedForPo po, row'.modelNumber = row.modelNumber

section Rearranged

variable {id serial : String}

theorem Db.Rearranged.mem_of_mem (h : db.Rearranged po db') {row : PoRow}
    (hr : row ∈ db.poInventory.rows) : row ∈ db'.poInventory.rows := by
  have ⟨more, hp, _⟩ := h.poInventory
  exact hp.mem_iff.mpr (List.mem_append_left more hr)

-- The open units are of the same models as before.
theorem Db.Rearranged.models_iff (h : db.Rearranged po db') {m : String} :
    (∃ row ∈ db'.unclaimedForPo po, row.modelNumber = m) ↔
      ∃ row ∈ db.unclaimedForPo po, row.modelNumber = m := by
  constructor
  case mpr =>
    intro ⟨row, hr, hm⟩
    have ⟨hrow, ho⟩ := Db.mem_unclaimedForPo.mp hr
    exact ⟨row, Db.mem_unclaimedForPo.mpr ⟨h.mem_of_mem hrow, ho⟩, hm⟩
  case mp =>
    intro ⟨row, hr, hm⟩
    have ⟨hrow, ho⟩ := Db.mem_unclaimedForPo.mp hr
    have ⟨more, hp, hmore⟩ := h.poInventory
    rcases List.mem_append.mp (hp.mem_iff.mp hrow) with hrow | hrow
    case inl => exact ⟨row, Db.mem_unclaimedForPo.mpr ⟨hrow, ho⟩, hm⟩
    case inr =>
      have ⟨row', hr', hm'⟩ := (hmore row hrow).2.2
      exact ⟨row', hr', hm'.trans hm⟩

theorem Db.Rearranged.fromkeys_perm (h : db.Rearranged po db') :
    (fromkeys ((db.unclaimedForPo po).map (·.modelNumber))).Perm
      (fromkeys ((db'.unclaimedForPo po).map (·.modelNumber))) := by
  refine (List.perm_ext_iff_of_nodup (nodup_fromkeys _) (nodup_fromkeys _)).mpr fun m => ?_
  simp only [mem_fromkeys, List.mem_map]
  exact h.models_iff.symm

-- Nothing that matches says more of a row than its model does.
theorem Db.Rearranged.matches_iff (h : db.Rearranged po db') {barcode : String} :
    (∃ row ∈ db'.unclaimedForPo po, exactModelMatch py barcode row.modelNumber) ↔
      ∃ row ∈ db.unclaimedForPo po, exactModelMatch py barcode row.modelNumber := by
  constructor
  case mp =>
    intro ⟨row, hr, hm⟩
    have ⟨row', hr', he⟩ := h.models_iff.mp ⟨row, hr, rfl⟩
    exact ⟨row', hr', he ▸ hm⟩
  case mpr =>
    intro ⟨row, hr, hm⟩
    have ⟨row', hr', he⟩ := h.models_iff.mpr ⟨row, hr, rfl⟩
    exact ⟨row', hr', he ▸ hm⟩

theorem Db.Rearranged.spelledAlike_iff (h : db.Rearranged po db') {barcode : String} :
    SpelledAlike py barcode (db'.unclaimedForPo po) ↔
      SpelledAlike py barcode (db.unclaimedForPo po) := by
  constructor
  case mp =>
    intro ha r₁ hr₁ r₂ hr₂ h₁ h₂
    have ⟨r₁', hr₁', he₁⟩ := h.models_iff.mpr ⟨r₁, hr₁, rfl⟩
    have ⟨r₂', hr₂', he₂⟩ := h.models_iff.mpr ⟨r₂, hr₂, rfl⟩
    exact he₁ ▸ he₂ ▸ ha r₁' hr₁' r₂' hr₂' (he₁ ▸ h₁) (he₂ ▸ h₂)
  case mpr =>
    intro ha r₁ hr₁ r₂ hr₂ h₁ h₂
    have ⟨r₁', hr₁', he₁⟩ := h.models_iff.mp ⟨r₁, hr₁, rfl⟩
    have ⟨r₂', hr₂', he₂⟩ := h.models_iff.mp ⟨r₂, hr₂, rfl⟩
    exact he₁ ▸ he₂ ▸ ha r₁' hr₁' r₂' hr₂' (he₁ ▸ h₁) (he₂ ▸ h₂)

end Rearranged

-- ### The resolver

theorem run_resolveModelBarcode_eq {raw : String} :
    (resolveModelBarcode py raw po).run World.handle w =
      (.ok (resolveScan py raw (fromkeys ((w.db.unclaimedForPo po).map (·.modelNumber)))
        (w.db.lookupBarcodeMapping raw)), w) :=
  rfl

theorem run_resolveModelBarcode_rearranged {raw : String} (h : w.db.Rearranged po w'.db) :
    ((resolveModelBarcode py raw po).run World.handle w').1 =
      ((resolveModelBarcode py raw po).run World.handle w).1 := by
  have hl : w'.db.lookupBarcodeMapping raw = w.db.lookupBarcodeMapping raw := by
    rw [Db.lookupBarcodeMapping, h.barcodeModelMap, Db.lookupBarcodeMapping]
  rw [run_resolveModelBarcode_eq, run_resolveModelBarcode_eq, hl, resolveScan_perm h.fromkeys_perm]

-- ### The scan

-- A received record of the purchase order and serial has a unit in the catalog.
def Db.Joins (db : Db) (po serial : String) : Prop :=
  ∃ ri ∈ db.receivingItems.rows, ri.isReceived po serial ∧
    (db.poInventory.find ri.inventoryId).isSome

namespace Scan

theorem duplicate_isSome_iff_joins :
    (s.duplicate db).isSome ↔ s.serial ≠ "" ∧ db.Joins s.poNumber s.serial := by
  unfold duplicate
  by_cases hs : s.serial = ""
  case pos => simp [hs]
  case neg =>
    rw [if_neg hs, Db.findClaimedBySerial_eq, List.findSome?_isSome_iff]
    simp only [hs, ne_eq, not_false_eq_true, true_and]
    refine exists_congr fun ri => and_congr_right fun _ => ?_
    by_cases hr : ri.isReceived s.poNumber s.serial <;> simp [Db.joined, hr]

-- The barcode matches open units, all of one spelling.
def Resolves (s : Scan py) (db : Db) : Prop :=
  (∃ row ∈ db.unclaimedForPo s.poNumber, exactModelMatch py s.barcode row.modelNumber) ∧
    SpelledAlike py s.barcode (db.unclaimedForPo s.poNumber)

theorem target_isSome_iff : (s.target db).isSome ↔ s.Resolves db := by
  constructor
  case mp =>
    intro h
    have ⟨row, hr⟩ := Option.isSome_iff_exists.mp h
    have ha := (resolveRow_eq_some_iff_alike.mp hr).1
    exact ⟨⟨row, mem_of_resolveRow hr, exactModelMatch_of_resolveRow hr⟩, ha⟩
  case mpr => exact fun ⟨hm, ha⟩ => (resolveRow_isSome_iff ha).mpr hm

theorem resolves_iff (h : db.Rearranged s.poNumber db') : s.Resolves db' ↔ s.Resolves db :=
  and_congr h.matches_iff h.spelledAlike_iff

-- Both catalogs have open units of the model that the barcode resolves to.
theorem modelNumber_eq (h : db.Rearranged s.poNumber db') {row row' : PoRow}
    (ht : s.target db = some row) (ht' : s.target db' = some row') :
    row'.modelNumber = row.modelNumber := by
  have ⟨row'', hr'', he⟩ := h.models_iff.mp ⟨row', mem_of_resolveRow ht', rfl⟩
  have ha := (resolveRow_eq_some_iff_alike.mp ht).1
  rw [← he]
  exact ha _ hr'' _ (mem_of_resolveRow ht) (he ▸ exactModelMatch_of_resolveRow ht')
    (exactModelMatch_of_resolveRow ht)

theorem firstIdentified_iff {row : PoRow} (ht : s.target db = some row) :
    FirstIdentified py s.barcode (db.unclaimedForPo s.poNumber) ↔ row.inventoryId ≠ none := by
  have hf := (resolveRow_eq_some_iff_alike.mp ht).2
  constructor
  case mp => exact fun h => h row hf
  case mpr =>
    intro h row' hf'
    cases hf.symm.trans hf'
    exact h

-- ### What a scan returns

theorem returned_of_identified (hr : s.Resolves w.db)
    (hi : FirstIdentified py s.barcode (w.db.unclaimedForPo s.poNumber)) :
    ∃ row id, s.target w.db = some row ∧ s.returned w = some (s.received row id) := by
  have ⟨row, ht⟩ := Option.isSome_iff_exists.mp (target_isSome_iff.mpr hr)
  have ⟨id, hid⟩ := Option.ne_none_iff_exists'.mp ((firstIdentified_iff ht).mp hi)
  exact ⟨row, id, ht, by rw [returned, run_of_completes (.saved (.claim ht hid))]⟩

theorem returned_of_unidentified (hr : s.Resolves w.db)
    (hi : ¬FirstIdentified py s.barcode (w.db.unclaimedForPo s.poNumber)) :
    s.returned w = none := by
  have ⟨row, ht⟩ := Option.isSome_iff_exists.mp (target_isSome_iff.mpr hr)
  have hid : row.inventoryId = none := by simpa using (firstIdentified_iff ht).not.mp hi
  rw [returned, run_of_null ht hid]

theorem target_of_not_resolves (hr : ¬s.Resolves db) : s.target db = none := by
  rw [← target_isSome_iff, Option.not_isSome_iff_eq_none] at hr
  exact hr

theorem returned_of_joins (hr : ¬s.Resolves w.db) (hs : s.serial ≠ "")
    (hj : w.db.Joins s.poNumber s.serial) : ∃ dup, s.returned w = some (s.alreadyScanned dup) := by
  have ⟨dup, hd⟩ := Option.isSome_iff_exists.mp (duplicate_isSome_iff_joins.mpr ⟨hs, hj⟩)
  exact ⟨dup, by rw [returned, run_of_completes (.alreadyScanned (target_of_not_resolves hr) hd)]⟩

theorem returned_of_miss (hr : ¬s.Resolves w.db)
    (hj : s.serial ≠ "" → ¬w.db.Joins s.poNumber s.serial) : s.returned w = some s.noMatch := by
  have hd : s.duplicate w.db = none := by
    rw [← Option.not_isSome_iff_eq_none, duplicate_isSome_iff_joins]
    exact fun ⟨hs, h⟩ => hj hs h
  rw [returned, run_of_completes (.saved (.miss (target_of_not_resolves hr) hd))]

-- ### Order independence

-- What is seen of scanning does not depend on the order of the open units, nor on more of them.
structure OrderFree (s : Scan py) (w w' : World) : Prop where
  verdict : ∀ raw, ((resolveModelBarcode py raw s.poNumber).run World.handle w').1 =
    ((resolveModelBarcode py raw s.poNumber).run World.handle w).1
  status  : s.answer w' = s.answer w
  model   : ∀ r r', s.returned w = some r → s.returned w' = some r' →
    r.matchStatus = .received ∨ r.matchStatus = .noMatch → r'.modelNumber = r.modelNumber

-- The first open unit that the barcode matches has an inventory_id in both catalogs or in none of
-- them, and where the barcode does not resolve and there is a serial, a received record of that
-- serial finds its unit in both catalogs or in none of them.
structure Undisturbed (s : Scan py) (db db' : Db) : Prop where
  identified : s.Resolves db → (FirstIdentified py s.barcode (db'.unclaimedForPo s.poNumber) ↔
    FirstIdentified py s.barcode (db.unclaimedForPo s.poNumber))
  joins      : ¬s.Resolves db → s.serial ≠ "" →
    (db'.Joins s.poNumber s.serial ↔ db.Joins s.poNumber s.serial)

theorem firstIdentified_iff_answer (hr : s.Resolves w.db) :
    FirstIdentified py s.barcode (w.db.unclaimedForPo s.poNumber) ↔ (s.answer w).isSome := by
  constructor
  case mp =>
    intro hi
    have ⟨row, id, _, h⟩ := returned_of_identified hr hi
    simp [answer, h]
  case mpr =>
    intro ha
    by_contra hi
    simp [answer, returned_of_unidentified hr hi] at ha

theorem joins_iff_answer (hr : ¬s.Resolves w.db) (hs : s.serial ≠ "") :
    w.db.Joins s.poNumber s.serial ↔ s.answer w = some .alreadyScanned := by
  constructor
  case mp =>
    intro hj
    have ⟨dup, h⟩ := returned_of_joins hr hs hj
    simp [answer, h, alreadyScanned, alreadyScannedRecord]
  case mpr =>
    intro ha
    by_contra hj
    simp [answer, returned_of_miss hr fun _ => hj, noMatch, noMatchRecord] at ha

-- What is returned in both catalogs has one status, and unless it is a duplicate one model.
theorem alike_of_undisturbed (h : w.db.Rearranged s.poNumber w'.db)
    (hu : s.Undisturbed w.db w'.db) :
    s.answer w' = s.answer w ∧
      ∀ r r', s.returned w = some r → s.returned w' = some r' →
        r.matchStatus = .received ∨ r.matchStatus = .noMatch → r'.modelNumber = r.modelNumber := by
  by_cases hr : s.Resolves w.db
  case pos =>
    have hr' := (resolves_iff h).mpr hr
    by_cases hi : FirstIdentified py s.barcode (w.db.unclaimedForPo s.poNumber)
    case pos =>
      obtain ⟨row, id, ht, hret⟩ := returned_of_identified hr hi
      obtain ⟨row', id', ht', hret'⟩ := returned_of_identified hr' ((hu.identified hr).mpr hi)
      refine ⟨by rw [answer, answer, hret, hret']; rfl, fun r r' he he' _ => ?_⟩
      cases hret.symm.trans he
      cases hret'.symm.trans he'
      exact modelNumber_eq h ht ht'
    case neg =>
      have hret := returned_of_unidentified hr hi
      have hret' := returned_of_unidentified hr' fun hi' => hi ((hu.identified hr).mp hi')
      refine ⟨by rw [answer, answer, hret, hret'], fun r r' he => ?_⟩
      cases hret.symm.trans he
  case neg =>
    have hr' := (resolves_iff h).not.mpr hr
    by_cases hj : s.serial ≠ "" ∧ w.db.Joins s.poNumber s.serial
    case pos =>
      obtain ⟨dup, hret⟩ := returned_of_joins hr hj.1 hj.2
      obtain ⟨dup', hret'⟩ := returned_of_joins hr' hj.1 ((hu.joins hr hj.1).mpr hj.2)
      refine ⟨by rw [answer, answer, hret, hret']; rfl, fun r r' he _ hm => ?_⟩
      cases hret.symm.trans he
      rcases hm with hm | hm <;> cases hm
    case neg =>
      have hret := returned_of_miss hr fun hs hj' => hj ⟨hs, hj'⟩
      have hret' := returned_of_miss hr' fun hs hj' => hj ⟨hs, (hu.joins hr hs).mp hj'⟩
      refine ⟨by rw [answer, answer, hret, hret'], fun r r' he he' _ => ?_⟩
      cases hret.symm.trans he
      cases hret'.symm.trans he'
      rfl

-- Scanning is free of the order exactly where the catalogs do not disturb it.
theorem orderFree_iff (h : w.db.Rearranged s.poNumber w'.db) :
    s.OrderFree w w' ↔ s.Undisturbed w.db w'.db := by
  constructor
  case mp =>
    intro ⟨_, hs, _⟩
    constructor
    case identified =>
      intro hr
      rw [firstIdentified_iff_answer ((resolves_iff h).mpr hr), hs, firstIdentified_iff_answer hr]
    case joins =>
      intro hr hn
      rw [joins_iff_answer ((resolves_iff h).not.mpr hr) hn, hs, joins_iff_answer hr hn]
  case mpr =>
    intro hu
    have ⟨hs, hm⟩ := alike_of_undisturbed h hu
    exact ⟨fun _ => run_resolveModelBarcode_rearranged h, hs, hm⟩

end Scan

-- Two units of a model in both orders.
def World.twoUnitsSwapped : World := .loaded [.unit "2" "P" "A", .unit "1" "P" "A"]

theorem rearranged_twoUnits : World.twoUnits.db.Rearranged "P" World.twoUnitsSwapped.db where
  receivingItems  := rfl
  barcodeModelMap := rfl
  poInventory     := ⟨[], by decide +kernel, by simp⟩

theorem Scan.orderFree_sample :
    Scan.sample.OrderFree .twoUnits .twoUnitsSwapped ↔
      Scan.sample.Undisturbed World.twoUnits.db World.twoUnitsSwapped.db :=
  orderFree_iff rearranged_twoUnits

-- A serial was received for unit 1. Since then the purchase order lists its model in two spellings,
-- and unit 1 no more, or again.
def World.respelled : World :=
  (typedScan.after (.loaded [.unit "1" "P" "AB1"])).refreshed
    [.unit "2" "P" "AB1", .unit "3" "P" "AB-1"]

def World.relisted : World :=
  (typedScan.after (.loaded [.unit "1" "P" "AB1"])).refreshed
    [.unit "2" "P" "AB1", .unit "3" "P" "AB-1", .unit "1" "P" "AB1"]

theorem rearranged_respelled : World.respelled.db.Rearranged "P" World.relisted.db where
  receivingItems  := rfl
  barcodeModelMap := rfl
  poInventory     := ⟨[⟨"1", "P", "AB1", none, none, none, none, sampleTime, none⟩],
    by decide +kernel, by decide +kernel⟩

-- With one more open unit of a model, no match becomes a duplicate.
theorem Scan.not_orderFree :
    ¬∀ (s : Scan .ascii) (w w' : World), w.db.Rearranged s.poNumber w'.db → s.OrderFree w w' := by
  intro h
  have ho := h typedScan .respelled .relisted rearranged_respelled
  have hs : typedScan.answer .relisted = typedScan.answer .respelled := ho.status
  exact absurd hs (by decide +kernel)

end ReceivingApp
