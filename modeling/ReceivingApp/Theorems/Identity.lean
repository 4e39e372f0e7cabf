import ReceivingApp.Theorems.Runs

open Interaction

namespace ReceivingApp

variable {py : PyStd} {w w' : World} {tr : List (Scan py × ReceivingRecord)}

namespace Scan

variable {s : Scan py} {r : ReceivingRecord} {rid : String}

-- A scan touches no row but the one under its receiving_id.
theorem Completes.find_of_ne (h : Completes s w w' r) (hne : r.receivingId ≠ rid) :
    w'.db.receivingItems.find rid = w.db.receivingItems.find rid := by
  cases h
  case alreadyScanned => rfl
  case saved db hs =>
    have hdb : db.receivingItems.find rid = w.db.receivingItems.find rid := by
      cases hs <;> exact Db.find_saveRecord_of_ne hne
    rw [← hdb, settle]
    split
    case isTrue => rfl
    case isFalse =>
      rw [Db.find_setEmitted]
      cases hf : db.receivingItems.find rid
      case none     => rfl
      case some row => simp [ItemRow.receivingId_of_find hf, Ne.symm hne]

-- The record a scan saves goes by the receiving_id of the subject of the scan.
theorem Completes.receivingId_eq (h : Completes s w w' r) (hr : r.matchStatus ≠ .alreadyScanned) :
    r.receivingId = Subject.receivingId py (s.poNumber, r.inventoryId, s.barcode) := by
  cases h
  case alreadyScanned => exact absurd rfl hr
  case saved hs       => cases hs <;> rfl

end Scan

-- The subject of a completed scan. An already_scanned one makes no receiving_id of its own.
def subject (t : Scan py × ReceivingRecord) : Subject :=
  (t.1.poNumber, t.2.inventoryId, t.1.barcode)

def Saved (t : Scan py × ReceivingRecord) : Prop :=
  t.2.matchStatus ≠ .alreadyScanned

-- What the receiving_id is the digest of.
def Subject.text (t : Subject) : String :=
  t.1 ++ t.2.1 ++ t.2.2

theorem Subject.receivingId_eq_iff (hinj : Function.Injective py.sha256Hex) {t t' : Subject} :
    t.receivingId py = t'.receivingId py ↔ t.text = t'.text :=
  hinj.eq_iff

-- The receiving_ids of a run keep different subjects apart: the ids differ, and no scan changes the
-- row of another subject or what `was_emitted` says of it.
def KeepsApart (py : PyStd) (w : World) (tr : List (Scan py × ReceivingRecord)) : Prop :=
  ∀ t ∈ tr, ∀ t' ∈ tr, Saved t → Saved t' → subject t ≠ subject t' →
    t.2.receivingId ≠ t'.2.receivingId ∧
    ∀ tr₁ tr₂ w₁ w₂, tr = tr₁ ++ t' :: tr₂ → Scans py w tr₁ w₁ →
      Program.Returns World.env w₁ t'.1.program w₂ t'.2 →
      w₂.db.receivingItems.find t.2.receivingId = w₁.db.receivingItems.find t.2.receivingId ∧
      w₂.db.wasEmitted t.2.receivingId = w₁.db.wasEmitted t.2.receivingId

theorem Scans.receivingId_eq (h : Scans py w tr w') :
    ∀ t ∈ tr, Saved t → t.2.receivingId = Subject.receivingId py (subject t) :=
  Trace.forall_mem (I := fun _ => True)
    (fun hs _ => ⟨trivial, (Scan.returns_iff.mp hs).receivingId_eq⟩) h trivial

-- The receiving_ids keep the subjects apart exactly if no two of them read the same when they are
-- written one part after the other.
theorem keepsApart_iff (hinj : Function.Injective py.sha256Hex) (h : Scans py w tr w') :
    KeepsApart py w tr ↔ ∀ t ∈ tr, ∀ t' ∈ tr, Saved t → Saved t' → subject t ≠ subject t' →
      (subject t).text ≠ (subject t').text := by
  have heq {t t' : Scan py × ReceivingRecord} (ht : t ∈ tr) (ht' : t' ∈ tr) (hs : Saved t)
      (hs' : Saved t') :
      t.2.receivingId = t'.2.receivingId ↔ (subject t).text = (subject t').text := by
    rw [h.receivingId_eq t ht hs, h.receivingId_eq t' ht' hs', Subject.receivingId_eq_iff hinj]
  constructor
  case mp =>
    intro hk t ht t' ht' hs hs' hne
    exact (heq ht ht' hs hs').not.mp (hk t ht t' ht' hs hs' hne).1
  case mpr =>
    intro htext t ht t' ht' hs hs' hne
    have hid := (heq ht ht' hs hs').not.mpr (htext t ht t' ht' hs hs' hne)
    refine ⟨hid, fun tr₁ tr₂ w₁ w₂ _ _ hr => ?_⟩
    have hf := (Scan.returns_iff.mp hr).find_of_ne (Ne.symm hid)
    exact ⟨hf, by simp only [Db.wasEmitted, hf]⟩

-- Two scans for the same purchase order, of an unknown barcode and of a unit of the catalog.
def unknownScan : Scan .ascii := ⟨"1X", "P", "S1", 0, .sample⟩

def knownScan : Scan .ascii := ⟨"X", "P", "S2", 0, .sample⟩

def oneX (id : String) : World := .loaded [.unit id "P" "X"]

theorem scans_unknown_known (id : String)
    (h : (unknownScan.returned (oneX id)).map (fun r => (r.matchStatus, r.inventoryId)) =
      some (.noMatch, ""))
    (h' : (knownScan.returned (unknownScan.after (oneX id))).map
      (fun r => (r.matchStatus, r.inventoryId)) = some (.received, id)) :
    ∃ r r' w', Scans .ascii (oneX id) [(unknownScan, r), (knownScan, r')] w' ∧
      (r.matchStatus = .noMatch ∧ r.inventoryId = "") ∧
      r'.matchStatus = .received ∧ r'.inventoryId = id := by
  have ⟨r, hr, he⟩ := Scan.completes_of_map h
  have ⟨r', hr', he'⟩ := Scan.completes_of_map h'
  exact ⟨r, r', _,
    .cons (Scan.returns_iff.mpr hr) (.cons (Scan.returns_iff.mpr hr') (.nil _)),
    Prod.mk.inj he, Prod.mk.inj he'⟩

-- With the inventory_id 22 the texts P1X and P22X differ.
theorem keepsApart_sample :
    ∃ r r', KeepsApart .ascii (oneX "22") [(unknownScan, r), (knownScan, r')] := by
  obtain ⟨r, r', w', h, ⟨_, hi⟩, _, hi'⟩ :=
    scans_unknown_known "22" (by decide +kernel) (by decide +kernel)
  refine ⟨r, r', (keepsApart_iff PyStd.ascii_injective h).mpr ?_⟩
  simp [subject, Subject.text, hi, hi', unknownScan, knownScan]

-- With the inventory_id 1 they are the same.
theorem not_keepsApart :
    ¬∀ (w w' : World) (tr : List (Scan .ascii × ReceivingRecord)),
      (∀ row ∈ w.db.poInventory.rows, row.inventoryId ≠ some "") → Scans .ascii w tr w' →
      KeepsApart .ascii w tr := by
  intro hk
  obtain ⟨r, r', w', h, ⟨hm, hi⟩, hm', hi'⟩ :=
    scans_unknown_known "1" (by decide +kernel) (by decide +kernel)
  have hs : Saved (unknownScan, r) := by simp [Saved, hm]
  have hs' : Saved (knownScan, r') := by simp [Saved, hm']
  have hne := (hk _ w' _ (by decide +kernel) h _ (.head _) _ (.tail _ (.head _)) hs hs'
    (by simp [subject, hi, hi'])).1
  apply hne
  rw [h.receivingId_eq _ (.head _) hs, h.receivingId_eq _ (.tail _ (.head _)) hs']
  simp [subject, Subject.receivingId, hi, hi']
  decide +kernel

end ReceivingApp
