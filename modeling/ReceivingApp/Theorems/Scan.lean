import ReceivingApp.Adapters.World
import ReceivingApp.Theorems.Database
import ReceivingApp.Theorems.Records

open Interaction

namespace ReceivingApp

variable {py : PyStd}

-- ### Resolution of a barcode

-- The candidate a barcode stands for.
def resolveRow (py : PyStd) (barcode : String) (candidates : List PoRow) : Option PoRow :=
  matchedRow candidates (bestModel py barcode candidates)

theorem ne_empty_of_exactModelMatch {barcode model : String}
    (h : exactModelMatch py barcode model) :
    model ≠ "" := by
  rintro rfl
  have ⟨hn, he⟩ := exactModelMatch_iff.mp h
  have hl : py.lower "" = "" := py.lower_ascii "" (by decide)
  rw [he] at hn
  exact hn (by simp [normalizeKey, hl])

theorem bestModel_eq_some_iff {barcode model : String} {candidates : List PoRow} :
    bestModel py barcode candidates = some model ↔
      (∃ row ∈ candidates, row.modelNumber = model) ∧ exactModelMatch py barcode model ∧
        ∀ row ∈ candidates,
          exactModelMatch py barcode row.modelNumber → row.modelNumber = model := by
  rw [bestModel, resolveExact_eq_some_iff_of_nodup (nodup_fromkeys _)]
  simp [and_assoc]

-- A barcode is resolved to the first candidate of the only model that matches it.
theorem resolveRow_eq_some_iff {barcode : String} {candidates : List PoRow} {row : PoRow} :
    resolveRow py barcode candidates = some row ↔
      bestModel py barcode candidates = some row.modelNumber ∧
        candidates.find? (fun c => c.modelNumber = row.modelNumber) = some row := by
  simp only [resolveRow]
  cases hb : bestModel py barcode candidates
  case none => simp [matchedRow]
  case some model =>
    have hne := ne_empty_of_exactModelMatch (bestModel_eq_some_iff.mp hb).2.1
    simp only [matchedRow, hne, if_false, Option.some.injEq]
    constructor
    case mp =>
      intro h
      have hm : row.modelNumber = model := by simpa using List.find?_some h
      exact ⟨hm.symm, hm ▸ h⟩
    case mpr => exact fun ⟨hm, h⟩ => hm ▸ h

section Resolve

variable {barcode : String} {candidates : List PoRow} {row : PoRow}

theorem mem_of_resolveRow (h : resolveRow py barcode candidates = some row) : row ∈ candidates :=
  List.mem_of_find?_eq_some (resolveRow_eq_some_iff.mp h).2

theorem exactModelMatch_of_resolveRow (h : resolveRow py barcode candidates = some row) :
    exactModelMatch py barcode row.modelNumber :=
  (bestModel_eq_some_iff.mp (resolveRow_eq_some_iff.mp h).1).2.1

-- Where all candidates that match are spelled alike, one of them is found.
theorem resolveRow_isSome_iff
    (hs : ∀ r₁ ∈ candidates, ∀ r₂ ∈ candidates, exactModelMatch py barcode r₁.modelNumber →
      exactModelMatch py barcode r₂.modelNumber → r₁.modelNumber = r₂.modelNumber) :
    (resolveRow py barcode candidates).isSome ↔
      ∃ r ∈ candidates, exactModelMatch py barcode r.modelNumber := by
  constructor
  case mp =>
    intro h
    have ⟨r, hr⟩ := Option.isSome_iff_exists.mp h
    exact ⟨r, mem_of_resolveRow hr, exactModelMatch_of_resolveRow hr⟩
  case mpr =>
    intro ⟨r, hr, hm⟩
    have hb : bestModel py barcode candidates = some r.modelNumber :=
      bestModel_eq_some_iff.mpr ⟨⟨r, hr, rfl⟩, hm, fun r' hr' hm' => hs r' hr' r hr hm' hm⟩
    have hf : (candidates.find? (fun c => c.modelNumber = r.modelNumber)).isSome :=
      List.find?_isSome.mpr ⟨r, hr, by simp⟩
    have ⟨r', hr'⟩ := Option.isSome_iff_exists.mp hf
    have he : r'.modelNumber = r.modelNumber := by simpa using List.find?_some hr'
    rw [resolveRow_eq_some_iff.mpr ⟨he ▸ hb, he ▸ hr'⟩]
    rfl

end Resolve

-- ### Scans

-- The arguments of a call of `process_scan`, with the sink it posts to and the times it reads.
structure Scan (py : PyStd) where
  barcode  : String
  poNumber : String
  serial   : String
  sink     : SinkId
  clock    : Clock py

namespace Scan

def program (s : Scan py) : ServiceM ReceivingRecord :=
  processScan py s.clock s.sink s.barcode s.poNumber s.serial

def noMatch (s : Scan py) : ReceivingRecord :=
  noMatchRecord s.clock s.poNumber s.barcode s.serial

def received (s : Scan py) (row : PoRow) (id : String) : ReceivingRecord :=
  receivedRecord s.clock row s.poNumber id s.barcode s.serial

def alreadyScanned (s : Scan py) (dup : ClaimedRow) : ReceivingRecord :=
  alreadyScannedRecord s.clock s.poNumber dup s.serial

-- The row the scan resolves to in a database.
def target (s : Scan py) (db : Db) : Option PoRow :=
  resolveRow py s.barcode (db.unclaimedForPo s.poNumber)

-- The duplicate the scan finds in a database, should its barcode not resolve.
def duplicate (s : Scan py) (db : Db) : Option ClaimedRow :=
  if s.serial = "" then none else db.findClaimedBySerial s.poNumber s.serial

-- The tail of a scan, from the duplicate check on.
def afterRead (s : Scan py) (candidates : List PoRow) : ServiceM ReceivingRecord := do
  let bestModel := bestModel py s.barcode candidates
  let matched := matchedRow candidates bestModel
  match ← findDuplicate matched s.poNumber s.serial with
  | some dupRow => .ofExcept (buildAlreadyScannedRecord py s.clock s.poNumber dupRow s.serial)
  | none =>
    let inventoryId := match matched with
      | some row => row.inventoryId
      | none     => some ""
    let receivingId := makeReceivingId py s.poNumber inventoryId s.barcode
    let record ← .ofExcept <|
      buildRecord py s.clock matched bestModel s.poNumber inventoryId receivingId s.serial s.barcode
    match matched with
    | some _ => .perform (.claimAndSave inventoryId s.clock.claimedAt s.clock.savedAt record)
    | none   => .perform (.saveRecord s.clock.savedAt record)
    emitOnce s.clock s.sink record

def claim (s : Scan py) (row : PoRow) (id : String) : ServiceM ReceivingRecord := do
  .perform (.claimAndSave (some id) s.clock.claimedAt s.clock.savedAt (s.received row id))
  emitOnce s.clock s.sink (s.received row id)

def miss (s : Scan py) : ServiceM ReceivingRecord := do
  .perform (.saveRecord s.clock.savedAt s.noMatch)
  emitOnce s.clock s.sink s.noMatch

theorem program_eq (s : Scan py) :
    s.program = Program.perform (.unclaimedForPo s.poNumber) >>= s.afterRead :=
  rfl

section AfterRead

variable {s : Scan py} {candidates : List PoRow} {row : PoRow} {id : String}

theorem afterRead_of_some (h : resolveRow py s.barcode candidates = some row)
    (hid : row.inventoryId = some id) : s.afterRead candidates = s.claim row id := by
  have hb := (resolveRow_eq_some_iff.mp h).1
  rw [resolveRow, hb] at h
  simp only [afterRead, hb, h, hid, findDuplicate, reduceCtorEq, false_and, if_false,
    Program.pure_bind', buildRecord_some, Program.ofExcept_ok, Program.pure_bind]
  rfl

theorem afterRead_of_null (h : resolveRow py s.barcode candidates = some row)
    (hid : row.inventoryId = none) : s.afterRead candidates = .throw missingInventoryId := by
  have hb := (resolveRow_eq_some_iff.mp h).1
  rw [resolveRow, hb] at h
  simp only [afterRead, hb, h, hid, findDuplicate, reduceCtorEq, false_and, if_false,
    Program.pure_bind', buildRecord_null, Program.ofExcept_error, Program.throw_bind]

theorem afterRead_of_none (h : resolveRow py s.barcode candidates = none) (hs : s.serial ≠ "") :
    s.afterRead candidates = (do
      match ← Program.perform (.findClaimedBySerial s.poNumber s.serial) with
      | some dup => .pure (s.alreadyScanned dup)
      | none     => s.miss) := by
  rw [resolveRow] at h
  simp only [afterRead, h, findDuplicate, hs, ne_eq, not_false_eq_true, and_self, if_true]
  refine congrArg (Program.perform _ >>= ·) (funext fun r => ?_)
  cases r
  case none =>
    simp only [buildRecord_none, Program.ofExcept_ok, Program.pure_bind]
    rfl
  case some dup =>
    simp only [buildAlreadyScannedRecord_eq, Program.ofExcept_ok]
    rfl

theorem afterRead_of_blank (h : resolveRow py s.barcode candidates = none) (hs : s.serial = "") :
    s.afterRead candidates = s.miss := by
  rw [resolveRow] at h
  simp only [afterRead, h, findDuplicate, hs, ne_eq, not_true_eq_false, and_false, if_false,
    Program.pure_bind', buildRecord_none, Program.ofExcept_ok, Program.pure_bind]
  rw [miss, noMatch, hs]

end AfterRead

-- ### Runs

-- The database after the transaction of a scan that has, or has not, found a row.
def claimed (s : Scan py) (row : PoRow) (id : String) (db : Db) : Db :=
  db.claimAndSave (some id) s.clock.claimedAt s.clock.savedAt (s.received row id)

def missed (s : Scan py) (db : Db) : Db :=
  db.saveRecord s.clock.savedAt s.noMatch

-- The transaction of a scan: the database it leaves, and the record it saves.
inductive Saves (s : Scan py) (db : Db) : Db → ReceivingRecord → Prop
  | claim {row : PoRow} {id : String} :
      s.target db = some row → row.inventoryId = some id →
      Saves s db (s.claimed row id db) (s.received row id)
  | miss :
      s.target db = none → s.duplicate db = none → Saves s db (s.missed db) s.noMatch

-- The world after a saved record has gone through the end of the scan.
def settle (s : Scan py) (r : ReceivingRecord) (w : World) : World :=
  if w.db.wasEmitted r.receivingId then w else { w.emit s.sink r with
    db := w.db.setEmitted s.clock.markedAt r.receivingId
  }

-- What a scan does that runs to its end.
inductive Completes (s : Scan py) (w : World) : World → ReceivingRecord → Prop
  | saved {db : Db} {r : ReceivingRecord} :
      Saves s w.db db r → Completes s w (s.settle r { w with db }) r
  | alreadyScanned {dup : ClaimedRow} :
      s.target w.db = none → s.duplicate w.db = some dup → Completes s w w (s.alreadyScanned dup)

-- How far the end of a scan gets that may be stopped anywhere.
inductive Settles (s : Scan py) (r : ReceivingRecord) (w : World) :
    World → ServiceM ReceivingRecord → Prop
  | before {q : ServiceM ReceivingRecord} : (∀ r', q ≠ .pure r') → Settles s r w w q
  | emitted {q : ServiceM ReceivingRecord} :
      w.db.wasEmitted r.receivingId = false → (∀ r', q ≠ .pure r') →
      Settles s r w (w.emit s.sink r) q
  | settled : Settles s r w (s.settle r w) (.pure r)

-- How far a scan gets that may be stopped anywhere.
inductive Cut (s : Scan py) (w : World) : World → ServiceM ReceivingRecord → Prop
  | before {q : ServiceM ReceivingRecord} : (∀ r, q ≠ .pure r) → Cut s w w q
  | alreadyScanned {dup : ClaimedRow} :
      s.target w.db = none → s.duplicate w.db = some dup → Cut s w w (.pure (s.alreadyScanned dup))
  | saved {db : Db} {r : ReceivingRecord} {w' : World} {q : ServiceM ReceivingRecord} :
      Saves s w.db db r → Settles s r { w with db } w' q → Cut s w w' q

section Saves

variable {s : Scan py} {db db' : Db} {r : ReceivingRecord}

theorem Saves.find_isSome (h : Saves s db db' r) :
    (db'.receivingItems.find r.receivingId).isSome := by
  cases h <;> simp [claimed, missed, Db.claimAndSave, Db.find_saveRecord]

theorem Saves.matchStatus_ne (h : Saves s db db' r) : r.matchStatus ≠ .needsAttention := by
  cases h <;> simp [received, receivedRecord, noMatch, noMatchRecord]

end Saves

-- ### The end of a scan

theorem emitOnce_propagates (clock : Clock py) (sink : SinkId) (r : ReceivingRecord) :
    (emitOnce clock sink r).Propagates := by
  simp only [emitOnce]
  refine .bind (.perform _) (fun e => ?_)
  split
  case isTrue => exact .pure _
  case isFalse =>
    split <;> exact .bind (.perform _) (fun _ => .bind (.perform _) (fun _ => .pure _))

section Settle

variable {s : Scan py} {r : ReceivingRecord} {w w' : World} {q : ServiceM ReceivingRecord}

theorem emitOnce_eq (hm : r.matchStatus ≠ .needsAttention) :
    emitOnce s.clock s.sink r = (do
      if ← Program.perform (.wasEmitted r.receivingId) then
        .pure r
      else
        Program.perform (.emit s.sink r)
        Program.perform (.markEmitted s.clock.markedAt r.receivingId)
        .pure r) := by
  simp only [emitOnce, hm, if_false]
  rfl

theorem run_emitOnce (hm : r.matchStatus ≠ .needsAttention)
    (hf : (w.db.receivingItems.find r.receivingId).isSome) :
    (emitOnce s.clock s.sink r).run World.handle w = (.ok r, s.settle r w) := by
  rw [emitOnce_eq hm]
  cases he : w.db.wasEmitted r.receivingId
  all_goals
    simp [Program.run_bind, World.handle, World.query, World.transact, World.write, settle, he,
      Db.markEmitted_of_isSome hf]

theorem settles_of_steps (hm : r.matchStatus ≠ .needsAttention)
    (hf : (w.db.receivingItems.find r.receivingId).isSome)
    (hs : Program.Steps World.env w (emitOnce s.clock s.sink r) w' q) : Settles s r w w' q := by
  rw [emitOnce_eq hm] at hs
  rcases Program.steps_perform_bind_iff.mp hs with ⟨rfl, rfl⟩ | ⟨e, w₁, he, hs⟩ | ⟨e, he, rfl⟩
  · exact .before Program.perform_bind_ne_pure
  · cases World.env_ok_iff.mp he
    cases hw : w.db.wasEmitted r.receivingId
    case true =>
      rw [hw, if_pos rfl] at hs
      obtain ⟨rfl, rfl⟩ := Program.steps_pure_iff.mp hs
      have h := Settles.settled (s := s) (r := r) (w := w')
      rwa [settle, if_pos hw] at h
    case false =>
      rw [hw, if_neg Bool.false_ne_true] at hs
      rcases Program.steps_perform_bind_iff.mp hs with ⟨rfl, rfl⟩ | ⟨_, w₁, he, hs⟩ | ⟨e, he, rfl⟩
      · exact .before Program.perform_bind_ne_pure
      · cases World.env_ok_iff.mp he
        rcases Program.steps_perform_bind_iff.mp hs with ⟨rfl, rfl⟩ | ⟨_, w₂, he, hs⟩ | ⟨e, he, rfl⟩
        · exact .emitted hw Program.perform_bind_ne_pure
        · rw [World.env_ok_iff] at he
          simp only [World.handle, Db.markEmitted_of_isSome, hf, World.emit_db] at he
          cases he
          obtain ⟨rfl, rfl⟩ := Program.steps_pure_iff.mp hs
          have h := Settles.settled (s := s) (r := r) (w := w)
          rwa [settle, hw] at h
        · rw [World.env_error he]
          exact .emitted hw Program.throw_ne_pure
      · rw [World.env_error he]
        exact .before Program.throw_ne_pure
  · rw [World.env_error he]
    exact .before Program.throw_ne_pure

end Settle

-- ### Whole scans

theorem miss_propagates (s : Scan py) : s.miss.Propagates :=
  .bind (.perform _) (fun _ => emitOnce_propagates ..)

theorem propagates (s : Scan py) : s.program.Propagates := by
  rw [program_eq]
  refine .bind (.perform _) (fun candidates => ?_)
  cases h : resolveRow py s.barcode candidates
  case none =>
    by_cases hs : s.serial = ""
    case pos =>
      rw [afterRead_of_blank h hs]
      exact s.miss_propagates
    case neg =>
      rw [afterRead_of_none h hs]
      refine .bind (.perform _) (fun dup => ?_)
      cases dup
      case none     => exact s.miss_propagates
      case some dup => exact .pure _
  case some row =>
    cases hid : row.inventoryId
    case none =>
      have hm := afterRead_of_null h hid
      exact hm ▸ .throw _
    case some id =>
      rw [afterRead_of_some h hid]
      exact .bind (.perform _) (fun _ => emitOnce_propagates ..)

section Cut

variable {s : Scan py} {w w' : World} {r : ReceivingRecord} {q : ServiceM ReceivingRecord}

theorem cut_of_steps_save {op : Port Unit} {db : Db} (h : Saves s w.db db r)
    (hop : World.handle Unit op w = (.ok (), { w with db }))
    (hs : Program.Steps World.env w
      (Program.perform op >>= fun _ => emitOnce s.clock s.sink r) w' q) : Cut s w w' q := by
  rcases Program.steps_perform_bind_iff.mp hs with ⟨rfl, rfl⟩ | ⟨_, w₁, he, hs⟩ | ⟨e, he, rfl⟩
  · exact .before Program.perform_bind_ne_pure
  · rw [World.env_ok_iff, hop] at he
    cases he
    exact .saved h (settles_of_steps h.matchStatus_ne h.find_isSome hs)
  · rw [World.env_error he]
    exact .before Program.throw_ne_pure

theorem cut_of_steps (hs : Program.Steps World.env w s.program w' q) : Cut s w w' q := by
  rw [program_eq] at hs
  rcases Program.steps_perform_bind_iff.mp hs with ⟨rfl, rfl⟩ | ⟨_, w₁, he, hs⟩ | ⟨e, he, rfl⟩
  case inl         => exact .before Program.perform_bind_ne_pure
  case inr.inr     => exact World.env_error he ▸ .before Program.throw_ne_pure
  case inr.inl =>
    cases World.env_ok_iff.mp he
    cases ht : s.target w.db
    case some row =>
      cases hid : row.inventoryId
      case none =>
        have hm := afterRead_of_null ht hid
        rw [hm] at hs
        obtain ⟨rfl, rfl⟩ := Program.steps_throw_iff.mp hs
        exact .before Program.throw_ne_pure
      case some id =>
        rw [afterRead_of_some ht hid] at hs
        exact cut_of_steps_save (.claim ht hid) rfl hs
    case none =>
      by_cases hb : s.serial = ""
      case pos =>
        rw [afterRead_of_blank ht hb] at hs
        exact cut_of_steps_save (.miss ht (if_pos hb)) rfl hs
      case neg =>
        rw [afterRead_of_none ht hb] at hs
        have hd : s.duplicate w.db = w.db.findClaimedBySerial s.poNumber s.serial := if_neg hb
        rcases Program.steps_perform_bind_iff.mp hs with
          ⟨rfl, rfl⟩ | ⟨dup, w₁, he, hs⟩ | ⟨e, he, rfl⟩
        case inl     => exact .before Program.perform_bind_ne_pure
        case inr.inr => exact World.env_error he ▸ .before Program.throw_ne_pure
        case inr.inl =>
          cases World.env_ok_iff.mp he
          cases hf : w.db.findClaimedBySerial s.poNumber s.serial
          case none =>
            rw [hf] at hs
            exact cut_of_steps_save (.miss ht (hd.trans hf)) rfl hs
          case some dup =>
            rw [hf] at hs
            obtain ⟨rfl, rfl⟩ := Program.steps_pure_iff.mp hs
            exact .alreadyScanned ht (hd.trans hf)

-- A scan that resolves to a row without inventory_id raises, and changes nothing.
theorem run_of_null (ht : s.target w.db = some row) (hid : row.inventoryId = none) :
    s.program.run World.handle w = (.error missingInventoryId, w) := by
  rw [program_eq, Program.run_bind_of_ok (Program.run_perform _), afterRead_of_null ht hid]
  rfl

theorem run_of_completes (h : Completes s w w' r) :
    s.program.run World.handle w = (.ok r, w') := by
  rw [program_eq, Program.run_bind_of_ok (Program.run_perform _)]
  cases h
  case saved db hs =>
    have hr := run_emitOnce (s := s) (w := { w with db }) hs.matchStatus_ne hs.find_isSome
    cases hs
    case claim ht hid =>
      rw [afterRead_of_some ht hid]
      exact (Program.run_bind_of_ok (Program.run_perform _)).trans hr
    case miss ht hd =>
      have hm : s.miss.run World.handle w = _ :=
        (Program.run_bind_of_ok (Program.run_perform _)).trans hr
      by_cases hb : s.serial = ""
      case pos => rwa [afterRead_of_blank ht hb]
      case neg =>
        rw [duplicate, if_neg hb] at hd
        rw [afterRead_of_none ht hb, Program.run_bind_of_ok (Program.run_perform _), hd]
        exact hm
  case alreadyScanned ht hd =>
    have hb : s.serial ≠ "" := fun hb => by simp [duplicate, hb] at hd
    rw [duplicate, if_neg hb] at hd
    rw [afterRead_of_none ht hb, Program.run_bind_of_ok (Program.run_perform _), hd]
    rfl

-- A scan returns exactly what it completes with.
theorem returns_iff : Program.Returns World.env w s.program w' r ↔ Completes s w w' r := by
  constructor
  case mp =>
    intro h
    have hc := cut_of_steps h
    generalize hq : Program.pure r = q at hc
    cases hc
    case before hn => exact absurd hq.symm (hn r)
    case alreadyScanned ht hd =>
      cases hq
      exact .alreadyScanned ht hd
    case saved hs he =>
      cases he
      case before hn    => exact absurd hq.symm (hn r)
      case emitted _ hn => exact absurd hq.symm (hn r)
      case settled =>
        cases hq
        exact .saved hs
  case mpr => exact fun h => (Program.returns_iff_run s.propagates).mpr (run_of_completes h)

-- ### Completed scans

theorem Completes.purchaseOrder_eq (h : Completes s w w' r) : r.purchaseOrder = s.poNumber := by
  cases h
  case saved hs       => cases hs <;> rfl
  case alreadyScanned => rfl

theorem Completes.serial_eq (h : Completes s w w' r) : r.serial = s.serial := by
  cases h
  case saved hs       => cases hs <;> rfl
  case alreadyScanned => rfl

-- A duplicate is not saved and not emitted.
theorem Completes.of_duplicate (h : Completes s w w' r) (ht : s.target w.db = none)
    (hd : (s.duplicate w.db).isSome) : r.matchStatus = .alreadyScanned ∧ w' = w := by
  cases h
  case alreadyScanned => exact ⟨rfl, rfl⟩
  case saved hs =>
    cases hs
    case claim ht' _ => simp [ht] at ht'
    case miss hd'    => simp [hd'] at hd

end Cut
end Scan
end ReceivingApp
