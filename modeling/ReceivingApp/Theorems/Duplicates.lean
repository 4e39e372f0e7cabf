import ReceivingApp.Theorems.Ledger

open Interaction

namespace ReceivingApp

variable {py : PyStd} {s : Scan py} {w : World}

-- The worlds that catalog loads and completed scans lead to, from an empty repository.
inductive Reachable (py : PyStd) : World → Prop
  | empty {w : World} : w.db = .empty → Reachable py w
  | upsert {w w' : World} {now : String} {items : List LineItem} :
      Reachable py w → Event.Step w (.upsert now items : Event py) w' → Reachable py w'
  | scan {w w' : World} {s : Scan py} {r : ReceivingRecord} :
      Reachable py w → Event.Step w (.scan s r) w' → Reachable py w'

-- Loads never drop a unit of the catalog, so every receipt keeps the row it was booked on.
theorem Reachable.backed (h : Reachable py w) : w.db.ledger.Backed := by
  induction h
  case empty w hw =>
    intro c ⟨row, hr, _⟩
    rw [hw] at hr
    exact absurd hr List.not_mem_nil
  case upsert hstep ih =>
    obtain ⟨db, hu, rfl⟩ := Event.step_upsert_iff.mp hstep
    simp only [Db.ledger_upsertItems hu]
    exact ih.list
  case scan hstep ih =>
    cases Event.step_scan_iff.mp hstep
    case alreadyScanned => exact ih
    case saved hs =>
      rw [Scan.ledger_settle]
      cases hs
      case claim ht hid =>
        rw [Scan.ledger_claimed]
        exact ih.book (Scan.listed_of_target ht hid)
      case miss =>
        rw [Scan.ledger_missed]
        exact ih.void

namespace Scan

-- A record of the scanned purchase order is stored as received with the scanned serial.
def Held (s : Scan py) (db : Db) : Prop :=
  ∃ row ∈ db.receivingItems.rows,
    row.matchStatus = .received ∧ row.purchaseOrder = s.poNumber ∧ row.serial = s.serial

instance (s : Scan py) (db : Db) : Decidable (s.Held db) :=
  inferInstanceAs (Decidable (∃ _ ∈ _, _))

theorem held_iff {db : Db} :
    s.Held db ↔ ∃ c ∈ db.ledger.receipts, c.purchaseOrder = s.poNumber ∧ c.serial = s.serial := by
  constructor
  case mp  => exact fun ⟨row, hr, hs, hpo, hserial⟩ => ⟨_, ⟨row, hr, hs, rfl⟩, hpo, hserial⟩
  case mpr => exact fun ⟨_, ⟨row, hr, hs, rfl⟩, hpo, hserial⟩ => ⟨row, hr, hs, hpo, hserial⟩

-- The duplicate-scan invariant: a scan is answered with already_scanned, and changes nothing, where
-- its serial was received before, and only there.
def AnswersDuplicates (s : Scan py) (w : World) : Prop :=
  (s.Held w.db → ∃ r, s.program.run World.handle w = (.ok r, w) ∧ r.matchStatus = .alreadyScanned) ∧
  ∀ r w', Program.Returns World.env w s.program w' r → r.matchStatus = .alreadyScanned →
    s.Held w.db

theorem target_eq_none_of_alreadyScanned {r : ReceivingRecord} {w' : World}
    (h : s.Completes w w' r) (hr : r.matchStatus = .alreadyScanned) :
    s.target w.db = none ∧ (s.duplicate w.db).isSome := by
  cases h
  case alreadyScanned ht hd => exact ⟨ht, by simp [hd]⟩
  case saved hs             => cases hs <;> cases hr

-- The invariant holds for exactly those scans of a received serial whose barcode has no row left.
theorem answersDuplicates_iff (hw : Reachable py w) (hs : s.serial ≠ "") :
    s.AnswersDuplicates w ↔ (s.Held w.db → s.target w.db = none) := by
  constructor
  case mp =>
    intro ⟨h, _⟩ hh
    have ⟨r, hr, hm⟩ := h hh
    have hc := returns_iff.mp ((Program.returns_iff_run s.propagates).mpr hr)
    exact (target_eq_none_of_alreadyScanned hc hm).1
  case mpr =>
    intro h
    constructor
    · intro hh
      have ⟨c, hc, hpo, hserial⟩ := held_iff.mp hh
      have hd := duplicate_isSome_iff.mpr ⟨hs, c, hc, hpo, hserial, hw.backed c hc⟩
      have ⟨dup, hd⟩ := Option.isSome_iff_exists.mp hd
      exact ⟨_, run_of_completes (.alreadyScanned (h hh) hd), rfl⟩
    · intro r w' hr hm
      have ⟨_, hd⟩ := target_eq_none_of_alreadyScanned (returns_iff.mp hr) hm
      have ⟨_, c, hc, hpo, hserial, _⟩ := duplicate_isSome_iff.mp hd
      exact held_iff.mpr ⟨c, hc, hpo, hserial⟩

theorem reachable_sample {items : List LineItem}
    (h : (Db.empty.upsertItems sampleTime items).isOk)
    (ha : sample.answer (.loaded items) = some .received) :
    Reachable .ascii (sample.after (.loaded items)) := by
  have ⟨_, hc, _⟩ := completes_of_answer ha
  exact .scan (.upsert (.empty rfl) (Event.step_loaded h)) (Event.step_scan_iff.mpr hc)

-- The only unit is scanned twice.
theorem answersDuplicates_sample : sample.AnswersDuplicates (sample.after .oneUnit) := by
  have h : Reachable .ascii (sample.after .oneUnit) :=
    reachable_sample (by decide +kernel) (by decide +kernel)
  exact (answersDuplicates_iff h (by decide)).mpr (fun _ => by decide +kernel)

-- The second scan of the first unit takes the second one.
theorem not_answersDuplicates :
    ¬∀ (w : World) (s : Scan .ascii),
      Reachable .ascii w → s.serial ≠ "" → s.AnswersDuplicates w := by
  intro h
  have hw : Reachable .ascii (sample.after .twoUnits) :=
    reachable_sample (by decide +kernel) (by decide +kernel)
  have ⟨r, hr, hm⟩ := (h _ sample hw (by decide)).1 (by decide +kernel)
  have hb : sample.answer (sample.after .twoUnits) = some .received := by decide +kernel
  simp [answer, returned, hr, hm] at hb

end Scan
end ReceivingApp
