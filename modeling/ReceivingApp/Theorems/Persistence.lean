import ReceivingApp.Core.Matching
import ReceivingApp.Theorems.Database
import ReceivingApp.Theorems.Records

open Relational

namespace ReceivingApp

variable {py : PyStd} {db : Db} {r : ReceivingRecord}

-- ### What a row keeps

-- What is left of a record in its row.
def ReceivingRecord.stored (r : ReceivingRecord) : ReceivingRecord := { r with
  brand  := ""
  vendor := ""
  tags   := ""
}

theorem ReceivingRecord.stored_eq_self_iff :
    r.stored = r ↔ r.brand = "" ∧ r.vendor = "" ∧ r.tags = "" := by
  constructor
  case mp  => exact fun h => h ▸ ⟨rfl, rfl, rfl⟩
  case mpr =>
    intro ⟨hb, hv, ht⟩
    cases r
    cases hb
    cases hv
    cases ht
    rfl

-- ### Saving and reading back

-- The two ways a record is stored.
inductive Saving
  | saveRecord (now : String)
  | claimAndSave (inventoryId : Option String) (claimedAt now : String)

def Saving.run (record : ReceivingRecord) (db : Db) : Saving → Except PyExc Db
  | saveRecord now => db.runSaveRecord now record
  | claimAndSave inventoryId claimedAt now => db.runClaimAndSave inventoryId claimedAt now record

-- The record is pending in one row, which is read back as that record.
def Saving.RoundTrips (py : PyStd) (o : Saving) (r : ReceivingRecord) (db : Db) : Prop :=
  ∃ db' row, o.run r db = .ok db' ∧
    db'.getPending.filter (fun row => row.receivingId = r.receivingId) = [row] ∧
    fromDict py row.toDict = .ok r

namespace Db

theorem nodup_pending : db.getPending.Nodup :=
  nodup_getPending.of_map _

theorem pending_saveRecord {now : String} (h : db.receivingItems.find r.receivingId = none) :
    (db.saveRecord now r).getPending.filter (fun row => row.receivingId = r.receivingId) =
      [.ofRecord now r] := by
  have hf : (db.saveRecord now r).receivingItems.find r.receivingId = some (.ofRecord now r) := by
    rw [find_saveRecord, if_pos rfl, h]
    rfl
  rw [filter_eq_singleton_iff nodup_pending]
  refine ⟨⟨List.mem_filter.mpr ⟨Table.mem_of_find hf, rfl⟩, by simp [ItemRow.ofRecord]⟩, ?_⟩
  intro row hrow hid
  have hm := ItemRow.mem_iff_find.mp (List.mem_filter.mp hrow).1
  rw [of_decide_eq_true hid, hf] at hm
  exact (Option.some.inj hm).symm

end Db

-- Either way, a record that fits leaves the same pending rows.
theorem Saving.run_eq_ok (o : Saving) (db : Db) (h : r.quantity < 2 ^ 63) :
    ∃ db' now, o.run r db = .ok db' ∧ db'.getPending = (db.saveRecord now r).getPending := by
  cases o
  case saveRecord now => exact ⟨_, now, if_pos h, rfl⟩
  case claimAndSave inventoryId claimedAt now => exact ⟨_, now, if_pos h, rfl⟩

theorem Saving.run_eq_error {o : Saving} (h : ¬r.quantity < 2 ^ 63) :
    o.run r db = .error Db.tooLarge := by
  cases o <;> exact if_neg h

-- What is read back is what the row holds.
theorem Saving.RoundTrips.stored {o : Saving} (h : o.RoundTrips py r db)
    (ht : BlankOrIso py r.timestamp) (hn : db.receivingItems.find r.receivingId = none) :
    r.stored = r ∧ r.quantity < 2 ^ 63 := by
  have ⟨db', row, hrun, hrow, hd⟩ := h
  by_cases hq : r.quantity < 2 ^ 63
  case neg => cases (run_eq_error hq).symm.trans hrun
  case pos =>
    have ⟨db'', now, hrun', hp⟩ := o.run_eq_ok db hq
    cases hrun.symm.trans hrun'
    rw [hp, Db.pending_saveRecord hn] at hrow
    cases hrow
    exact ⟨Except.ok.inj ((fromDict_row ht).symm.trans hd), hq⟩

theorem Saving.roundTrips_of_stored {o : Saving} (hs : r.stored = r) (hq : r.quantity < 2 ^ 63)
    (ht : BlankOrIso py r.timestamp) (hn : db.receivingItems.find r.receivingId = none) :
    o.RoundTrips py r db := by
  have ⟨db', now, hrun, hp⟩ := o.run_eq_ok db hq
  have hd : fromDict py (ItemRow.ofRecord now r).toDict = .ok r.stored := fromDict_row ht
  exact ⟨db', _, hrun, hp ▸ Db.pending_saveRecord hn, hs ▸ hd⟩

-- A record survives exactly if it has none of the catalog fields and its quantity can be stored.
theorem Saving.roundTrips_iff {data : Dict} (o : Saving) (hr : fromDict py data = .ok r)
    (hn : db.receivingItems.find r.receivingId = none) :
    o.RoundTrips py r db ↔
      (r.brand = "" ∧ r.vendor = "" ∧ r.tags = "") ∧ r.quantity < 2 ^ 63 := by
  have ht := timestamp_of_fromDict hr
  rw [← r.stored_eq_self_iff]
  constructor
  case mp  => exact fun h => h.stored ht hn
  case mpr => exact fun h => roundTrips_of_stored h.1 h.2 ht hn

def branded (brand : String) : ReceivingRecord where
  truck           := "T1"
  stop            := "4"
  salesOrder      := "SO1"
  modelNumber     := "AB1"
  productCategory := "Oven"
  productSize     := [("w", .int 30), ("d", .int 27), ("h", .int 36)]
  quantity        := 2
  receivingId     := "id"
  timestamp       := sampleTime
  matchStatus     := .received
  purchaseOrder   := "P"
  inventoryId     := "1"
  serial          := "S1"
  brand           := brand
  vendor          := ""
  tags            := ""
  receivingId_not_blank := by decide
  quantity_pos          := by decide
  productSize_ok        := rfl

theorem Saving.roundTrips_sample :
    (Saving.saveRecord sampleTime).RoundTrips .ascii (branded "") .empty :=
  (roundTrips_iff _ (fromDict_toDict (r := branded "") rfl) rfl).mpr ⟨⟨rfl, rfl, rfl⟩, by decide⟩

-- The brand of a record is not stored.
theorem Saving.not_roundTrips :
    ¬∀ (o : Saving) (data : Dict) (r : ReceivingRecord) (db : Db),
      fromDict .ascii data = .ok r → db.receivingItems.find r.receivingId = none →
      o.RoundTrips .ascii r db := by
  intro h
  have hr := h (.saveRecord sampleTime) _ (branded "B") .empty
    (fromDict_toDict (r := branded "B") rfl) rfl
  have hs := (hr.stored (.inr rfl) rfl).1
  have hb : "" = "B" := congrArg ReceivingRecord.brand hs
  exact absurd hb (by decide)

end ReceivingApp
