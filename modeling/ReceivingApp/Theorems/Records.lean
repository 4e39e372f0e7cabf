import ReceivingApp.Services.Receive
import ReceivingApp.Services.Sync
import ReceivingApp.Theorems.Validation

open Interaction

namespace ReceivingApp

variable {py : PyStd}

-- ### Serialization

def recordFields : List String :=
  strFields ++ optionalStrFields ++ ["quantity", "product_size"]

-- A dict whose fields, once it is migrated, are those of a record.
def Dict.Holds (data : Dict) (r : ReceivingRecord) : Prop :=
  ∀ f ∈ recordFields, (migrate data).get? f = (toDict r).get? f

section Serialization

variable {data : Dict} {r : ReceivingRecord} {row : ItemRow}

theorem Dict.Holds.validateRecord (hd : data.Holds r) (h : BlankOrIso py r.timestamp) :
    validateRecord py (migrate data) = [] := by
  refine validateRecord_eq_nil_iff.mpr ⟨?_, ?_, ?_, ?_, ?_⟩
  · intro f hf
    rw [strFieldProblems_eq_nil_iff, hd f (by simp [recordFields, hf])]
    simp only [strFields, List.mem_cons, List.not_mem_nil, or_false] at hf
    rcases hf with rfl | rfl | rfl | rfl | rfl | rfl | rfl | rfl | rfl | rfl
    all_goals simp [toDict, r.receivingId_not_blank]
  · intro f hf
    rw [optionalStrFieldProblems_eq_nil_iff, hd f (by simp [recordFields, hf])]
    simp only [optionalStrFields, List.mem_cons, List.not_mem_nil, or_false] at hf
    rcases hf with rfl | rfl | rfl | rfl
    all_goals simp [toDict]
  · rw [timestampProblems_eq_nil_iff, hd "timestamp" (by decide)]
    simpa [toDict, BlankOrIso] using h
  · rw [quantityProblems_eq_nil_iff, hd "quantity" (by decide)]
    simp [toDict, r.quantity_pos]
  · rw [productSizeProblems_eq_nil_iff, hd "product_size" (by decide)]
    simp [toDict, r.productSize_ok]

theorem Dict.Holds.fromDict (hd : data.Holds r) (h : BlankOrIso py r.timestamp) :
    fromDict py data = .ok r := by
  unfold ReceivingApp.fromDict
  rw [dif_pos (hd.validateRecord h)]
  refine congrArg Except.ok (ReceivingRecord.ext ?_ ?_ ?_ ?_ ?_ ?_ ?_ ?_ ?_ ?_ ?_ ?_ ?_ ?_ ?_ ?_)
  all_goals
    simp only [strOf, intOf, dictOf, statusOf]
    rw [hd _ (by decide)]
    simp [toDict]

theorem fromDict_toDict (h : py.isIsoFormat r.timestamp) : fromDict py (toDict r) = .ok r := by
  refine Dict.Holds.fromDict (fun f _ => ?_) (.inr h)
  simp [migrate, optionalStrFields, toDict]

-- The record that a row is read back as.
def ItemRow.record (row : ItemRow) : ReceivingRecord := { row with
  brand  := ""
  vendor := ""
  tags   := ""
}

theorem ItemRow.holds_toDict : row.toDict.Holds row.record := by
  have hm : migrate row.toDict =
      row.toDict ++ [("brand", .str ""), ("vendor", .str ""), ("tags", .str "")] := by
    simp [migrate, optionalStrFields, ItemRow.toDict]
  intro f hf
  rw [hm]
  simp only [recordFields, strFields, optionalStrFields, List.cons_append, List.nil_append,
    List.mem_cons, List.not_mem_nil, or_false] at hf
  rcases hf with rfl | rfl | rfl | rfl | rfl | rfl | rfl | rfl | rfl | rfl | rfl | rfl | rfl |
    rfl | rfl | rfl
  all_goals rfl

theorem fromDict_row (h : BlankOrIso py row.timestamp) : fromDict py row.toDict = .ok row.record :=
  row.holds_toDict.fromDict h

-- What `from_dict` returns has a timestamp it accepts.
theorem timestamp_of_fromDict (h : fromDict py data = .ok r) : BlankOrIso py r.timestamp := by
  have hv := validateRecord_of_fromDict h
  have ⟨hs, _, ht, _⟩ := validateRecord_eq_nil_iff.mp hv
  have ⟨ts, hg, _⟩ := strFieldProblems_eq_nil_iff.mp (hs "timestamp" (by decide))
  unfold fromDict at h
  rw [dif_pos hv] at h
  cases h
  simpa [strOf, hg, BlankOrIso] using timestampProblems_eq_nil_iff.mp ht ts hg

-- A row is read back as one record only, and not at all where its timestamp is not valid.
theorem fromDict_row_iff :
    fromDict py row.toDict = .ok r ↔ BlankOrIso py row.timestamp ∧ r = row.record := by
  constructor
  case mpr => exact fun ⟨ht, hr⟩ => hr ▸ fromDict_row ht
  case mp =>
    intro h
    have ⟨_, _, hts, _⟩ := validateRecord_eq_nil_iff.mp (validateRecord_of_fromDict h)
    have hg : (migrate row.toDict).get? "timestamp" = some (.str row.timestamp) :=
      row.holds_toDict "timestamp" (by decide)
    have ht : BlankOrIso py row.timestamp := timestampProblems_eq_nil_iff.mp hts _ hg
    exact ⟨ht, Except.ok.inj (h.symm.trans (fromDict_row ht))⟩

end Serialization

-- ### Receiving ids

-- A scan subject is what a receiving_id is made of: purchase order, inventory_id and barcode.
abbrev Subject := String × String × String

def Subject.receivingId (py : PyStd) (t : Subject) : String :=
  makeReceivingId py t.1 (some t.2.1) t.2.2

-- On one purchase order and barcode, the receiving_id tells the units apart.
theorem makeReceivingId_inj (hinj : Function.Injective py.sha256Hex) {po id id' barcode : String} :
    makeReceivingId py po (some id) barcode = makeReceivingId py po (some id') barcode ↔
      id = id' := by
  simp [makeReceivingId, hinj.eq_iff, formatOpt]

-- ### The records of `process_scan`

def noMatchRecord (clock : Clock py) (poNumber barcode serial : String) : ReceivingRecord where
  truck           := ""
  stop            := ""
  salesOrder      := ""
  modelNumber     := barcode
  productCategory := ""
  productSize     := zeroSize
  quantity        := 1
  receivingId     := makeReceivingId py poNumber (some "") barcode
  timestamp       := clock.timestamp
  matchStatus     := .noMatch
  purchaseOrder   := poNumber
  inventoryId     := ""
  serial          := serial
  brand           := ""
  vendor          := ""
  tags            := ""
  receivingId_not_blank := Bool.eq_false_iff.mpr (py.sha256Hex_not_blank _)
  quantity_pos          := Int.le_refl 1
  productSize_ok        := rfl

def receivedRecord (clock : Clock py) (row : PoRow) (poNumber inventoryId barcode serial : String) :
    ReceivingRecord where
  truck           := ""
  stop            := ""
  salesOrder      := ""
  modelNumber     := row.modelNumber
  productCategory := ""
  productSize     := zeroSize
  quantity        := 1
  receivingId     := makeReceivingId py poNumber (some inventoryId) barcode
  timestamp       := clock.timestamp
  matchStatus     := .received
  purchaseOrder   := poNumber
  inventoryId     := inventoryId
  serial          := serial
  brand           := orEmpty row.brand
  vendor          := orEmpty row.vendor
  tags            := orEmpty row.tags
  receivingId_not_blank := Bool.eq_false_iff.mpr (py.sha256Hex_not_blank _)
  quantity_pos          := Int.le_refl 1
  productSize_ok        := rfl

def alreadyScannedRecord (clock : Clock py) (poNumber : String) (dup : ClaimedRow)
    (serial : String) : ReceivingRecord := { dup with
  timestamp     := clock.timestamp
  matchStatus   := .alreadyScanned
  purchaseOrder := poNumber
  serial        := serial
  brand         := orEmpty dup.brand
  vendor        := orEmpty dup.vendor
  tags          := orEmpty dup.tags
}

theorem buildRecord_none {clock : Clock py} {best : Option String} {inventoryId : Option String}
    {po barcode serial : String} :
    buildRecord py clock none best po inventoryId (makeReceivingId py po (some "") barcode) serial
      barcode = .ok (noMatchRecord clock po barcode serial) := by
  unfold buildRecord
  exact fromDict_toDict (r := noMatchRecord clock po barcode serial) clock.timestamp_iso

theorem buildRecord_some {clock : Clock py} {row : PoRow} {po id barcode serial : String} :
    buildRecord py clock (some row) (some row.modelNumber) po (some id)
      (makeReceivingId py po (some id) barcode) serial barcode =
      .ok (receivedRecord clock row po id barcode serial) := by
  unfold buildRecord
  simp only [Dict.update, List.foldl_cons, List.foldl_nil, Dict.set_cons, Dict.getD, PoRow.toDict,
    Dict.get?_cons, Dict.get?_nil, String.reduceEq, if_true, if_false, Option.getD_none]
  exact fromDict_toDict (r := receivedRecord clock row po id barcode serial) clock.timestamp_iso

-- A row with a null inventory_id has no record: the field is required.
def missingInventoryId : PyExc where
  cls := .validationError
  msg := "Record failed validation:\n  inventory_id: missing required field"

theorem buildRecord_null (clock : Clock py) (row : PoRow) (m po serial barcode : String) :
    buildRecord py clock (some row) (some m) po none (makeReceivingId py po none barcode) serial
      barcode = .error missingInventoryId := by
  have hb : isBlank (makeReceivingId py po none barcode) = false :=
    Bool.eq_false_iff.mpr (py.sha256Hex_not_blank _)
  have hs : MatchStatus.ofValue? "received" = some .received := rfl
  have hz : dims.flatMap (dimProblems py zeroSize) = [] := by simp [dims, dimProblems, zeroSize]
  unfold buildRecord
  simp only [fromDict, Dict.update, List.foldl_cons, List.foldl_nil, Dict.set_cons,
    String.reduceEq, if_true, if_false]
  split
  case isTrue h =>
    have hf := (validateRecord_eq_nil_iff.mp h).1 "inventory_id" (by simp [strFields])
    simp [strFieldProblems, migrate, optionalStrFields, PyVal.ofOption] at hf
  case isFalse =>
    simp [validateRecord, migrate, optionalStrFields, strFields, strFieldProblems, PyVal.ofOption,
      hb, optionalStrFieldProblems, timestampProblems, clock.timestamp_iso, quantityProblems,
      productSizeProblems, Dict.getD, PoRow.toDict, hs, hz]
    rfl

theorem buildAlreadyScannedRecord_eq {clock : Clock py} {po serial : String} {dup : ClaimedRow} :
    buildAlreadyScannedRecord py clock po dup serial =
      .ok (alreadyScannedRecord clock po dup serial) :=
  fromDict_toDict (r := alreadyScannedRecord clock po dup serial) clock.timestamp_iso

end ReceivingApp
