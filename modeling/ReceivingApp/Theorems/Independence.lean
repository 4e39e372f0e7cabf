import Mathlib.Data.Set.Function
import ReceivingApp.Theorems.Ledger

open Interaction

namespace ReceivingApp

variable {py : PyStd} {T : Set Subject} {w w' v : World} {db db' : Db}

-- ### What a scan does

namespace Scan

variable {s t : Scan py} {r : ReceivingRecord} {row : PoRow} {id rid : String} {clock : Clock py}

-- The same scan at another time.
def retimed (clock : Clock py) (s : Scan py) : Scan py := { s with clock }

-- What a caller sees of the outcome of a scan, timestamps aside.
def outcome (s : Scan py) (w : World) :
    Except PyExc (MatchStatus × String × String × String × String) :=
  (s.program.run World.handle w).1.map fun r =>
    (r.matchStatus, r.inventoryId, r.modelNumber, r.serial, r.receivingId)

-- The unit the scan claims, if there is one.
def claims? (s : Scan py) (db : Db) : Option String :=
  (s.target db).bind (·.inventoryId)

-- The record the scan saves, if it saves one.
def saves? (s : Scan py) (db : Db) : Option ReceivingRecord :=
  match s.target db with
  | some row => row.inventoryId.map (s.received row)
  | none     => if (s.duplicate db).isSome then none else some s.noMatch

-- All that a scan changes.
theorem after_eq (s : Scan py) (w : World) :
    s.after w = match s.saves? w.db with
      | some r => s.settle r { w with
          db := (w.db.claim (s.claims? w.db) s.clock.claimedAt).saveRecord s.clock.savedAt r }
      | none => w := by
  unfold saves? claims? after
  cases ht : s.target w.db
  case none =>
    cases hd : s.duplicate w.db
    case none =>
      rw [run_of_completes (.saved (.miss ht hd))]
      simp [Db.claim_none, missed]
    case some dup =>
      rw [run_of_completes (.alreadyScanned ht hd)]
      simp
  case some row =>
    cases hid : row.inventoryId
    case none    => simp [run_of_null ht hid, hid]
    case some id =>
      rw [run_of_completes (.saved (.claim ht hid))]
      simp [claimed, Db.claimAndSave, hid]

-- Where a scan finds the same row and the same duplicate, its outcome is the same.
theorem outcome_congr (ht : s.target v.db = s.target w.db)
    (hd : s.duplicate v.db = s.duplicate w.db) : (s.retimed clock).outcome v = s.outcome w := by
  unfold outcome
  cases htw : s.target w.db
  case none =>
    have htv : (s.retimed clock).target v.db = none := ht.trans htw
    cases hdw : s.duplicate w.db
    case none =>
      have hdv : (s.retimed clock).duplicate v.db = none := hd.trans hdw
      rw [run_of_completes (.saved (.miss htw hdw)), run_of_completes (.saved (.miss htv hdv))]
      rfl
    case some dup =>
      have hdv : (s.retimed clock).duplicate v.db = some dup := hd.trans hdw
      rw [run_of_completes (.alreadyScanned htw hdw), run_of_completes (.alreadyScanned htv hdv)]
      rfl
  case some row =>
    have htv : (s.retimed clock).target v.db = some row := ht.trans htw
    cases hid : row.inventoryId
    case none => rw [run_of_null htw hid, run_of_null htv hid]
    case some id =>
      rw [run_of_completes (.saved (.claim htw hid)), run_of_completes (.saved (.claim htv hid))]
      rfl

end Scan

-- ### What it leaves behind

-- A row without its times.
def PoRow.untimed (row : PoRow) : PoRow := { row with
  claimedAt := row.claimedAt.map fun _ => ""
}

-- The row after a claim of the unit with the inventory_id.
def PoRow.claimed (inventoryId : Option String) (claimedAt : String) (row : PoRow) : PoRow :=
  if Db.isOpenSlot inventoryId row then { row with claimedAt := some claimedAt } else row

def ItemRow.untimed (row : ItemRow) : ItemRow := { row with
  timestamp := ""
  createdAt := ""
  updatedAt := none
}

-- The row under a record that has gone through the end of a scan.
def ReceivingRecord.settledRow (r : ReceivingRecord) : ItemRow :=
  (ItemRow.marked "" (.ofRecord "" r)).untimed

namespace ReceivingRecord

def retimed (timestamp : String) (r : ReceivingRecord) : ReceivingRecord := { r with
  timestamp
}

@[simp]
theorem receivingId_retimed (c : String) (r : ReceivingRecord) :
    (r.retimed c).receivingId = r.receivingId :=
  rfl

@[simp]
theorem settledRow_retimed (c : String) (r : ReceivingRecord) :
    (r.retimed c).settledRow = r.settledRow :=
  rfl

end ReceivingRecord

namespace Scan

variable {s t : Scan py} {r : ReceivingRecord} {row : ItemRow} {rid now : String}

theorem claims?_of_saves?_eq_none (h : s.saves? db = none) : s.claims? db = none := by
  unfold saves? at h
  unfold claims?
  split at h
  case h_1 row ht => simpa [ht] using h
  case h_2 ht     => simp [ht]

theorem poInventory_after (s : Scan py) (w : World) :
    (s.after w).db.poInventory = (w.db.claim (s.claims? w.db) s.clock.claimedAt).poInventory := by
  rw [after_eq]
  split
  case h_1 => exact poInventory_settles .settled
  case h_2 hs => rw [claims?_of_saves?_eq_none hs, Db.claim_none]

theorem untimed_overwrite (h : row.receivingId = r.receivingId)
    (he : row.emitted) : (row.overwrite now r).untimed = r.settledRow := by
  obtain ⟨⟩ := row
  cases h
  cases he
  rfl

theorem untimed_marked_overwrite {markedAt : String} (h : row.receivingId = r.receivingId) :
    ((row.overwrite now r).marked markedAt).untimed = r.settledRow := by
  obtain ⟨⟩ := row
  cases h
  rfl

-- A settled record has a row that is marked as emitted.
theorem find_settle_self (s : Scan py) (w : World) (now : String) (r : ReceivingRecord) :
    ((s.settle r { w with db := w.db.saveRecord now r }).db.receivingItems.find r.receivingId).map
      ItemRow.untimed = some r.settledRow := by
  have hs : (w.db.saveRecord now r).receivingItems.find r.receivingId =
      some ((w.db.receivingItems.find r.receivingId).elim (.ofRecord now r) (.overwrite now r)) := by
    rw [Db.find_saveRecord, if_pos rfl]
  unfold settle
  simp only [Db.wasEmitted_saveRecord]
  cases hf : w.db.receivingItems.find r.receivingId
  case none =>
    have he : w.db.wasEmitted r.receivingId = false := by simp [Db.wasEmitted, hf]
    rw [hf, Option.elim_none] at hs
    simp [he, Db.find_setEmitted, hs, ItemRow.ofRecord, ReceivingRecord.settledRow, ItemRow.untimed,
      ItemRow.marked]
  case some row =>
    have hid : row.receivingId = r.receivingId := ItemRow.receivingId_of_find hf
    rw [hf, Option.elim_some] at hs
    by_cases he : w.db.wasEmitted r.receivingId
    case pos =>
      have her : row.emitted := by simpa [Db.wasEmitted, hf] using he
      simp only [if_pos he, hs, Option.map_some]
      exact congrArg some (untimed_overwrite hid her)
    case neg =>
      simp only [if_neg he, Db.find_setEmitted, hs, Option.map_some]
      rw [if_pos (show (row.overwrite now r).receivingId = r.receivingId from hid)]
      exact congrArg some (untimed_marked_overwrite hid)

theorem find_settle_of_ne (s : Scan py) (w : World) (now : String) (h : r.receivingId ≠ rid) :
    (s.settle r { w with db := w.db.saveRecord now r }).db.receivingItems.find rid =
      w.db.receivingItems.find rid := by
  unfold settle
  split
  case isTrue  => exact Db.find_saveRecord_of_ne h
  case isFalse =>
    simp only [Db.find_setEmitted, Db.find_saveRecord_of_ne h]
    cases hf : w.db.receivingItems.find rid
    case none     => rfl
    case some row => simp [ItemRow.receivingId_of_find hf, Ne.symm h]

theorem find_after (s : Scan py) (w : World) (rid : String) :
    ((s.after w).db.receivingItems.find rid).map ItemRow.untimed =
      match s.saves? w.db with
      | some r =>
        if r.receivingId = rid then some r.settledRow
        else (w.db.receivingItems.find rid).map ItemRow.untimed
      | none => (w.db.receivingItems.find rid).map ItemRow.untimed := by
  rw [after_eq]
  split
  case h_2 => rfl
  case h_1 r _ =>
    split
    case isTrue h =>
      subst h
      exact find_settle_self s { w with db := w.db.claim (s.claims? w.db) s.clock.claimedAt } _ r
    case isFalse h =>
      rw [find_settle_of_ne s { w with db := w.db.claim (s.claims? w.db) s.clock.claimedAt } _ h]
      rfl

theorem wasEmitted_eq_untimed (db : Db) (rid : String) :
    db.wasEmitted rid = ((db.receivingItems.find rid).map ItemRow.untimed).elim false (·.emitted) := by
  unfold Db.wasEmitted
  cases db.receivingItems.find rid <;> rfl

-- The record the scan puts on the board, if it does.
def posts? (s : Scan py) (w : World) : Option ReceivingRecord :=
  (s.saves? w.db).filter fun r =>
    w.db.wasEmitted r.receivingId = false ∧ r.receivingId ∉ w.seen s.sink

theorem posts?_eq_some_iff :
    s.posts? w = some r ↔ s.saves? w.db = some r ∧ w.db.wasEmitted r.receivingId = false ∧
      r.receivingId ∉ w.seen s.sink := by
  simp [posts?, Option.filter_eq_some_iff]

-- The board and the sinks after a scan.
theorem after_sinks (s : Scan py) (w : World) :
    (s.after w).board = (match s.posts? w with
      | some r => w.emit s.sink r
      | none   => w).board ∧
    (s.after w).seen = (match s.posts? w with
      | some r => w.emit s.sink r
      | none   => w).seen := by
  rw [after_eq]
  unfold posts?
  cases hs : s.saves? w.db
  case none => exact ⟨rfl, rfl⟩
  case some r =>
    have he : ((w.db.claim (s.claims? w.db) s.clock.claimedAt).saveRecord s.clock.savedAt r).wasEmitted
        r.receivingId = w.db.wasEmitted r.receivingId :=
      Db.wasEmitted_saveRecord
    simp only [settle, he]
    by_cases hw : w.db.wasEmitted r.receivingId
    case pos => simp [hw, Option.filter]
    case neg =>
      by_cases hm : r.receivingId ∈ w.seen s.sink
      all_goals simp [hw, hm, World.emit, World.post, Option.filter]

theorem board_after (s : Scan py) (w : World) :
    (s.after w).board = w.board ++ ((s.posts? w).map emittedItem).toList := by
  rw [(after_sinks s w).1]
  cases hp : s.posts? w
  case none => simp
  case some r =>
    have hm : r.receivingId ∉ w.seen s.sink := (posts?_eq_some_iff.mp hp).2.2
    simp [World.emit, World.post, hm]

theorem mem_seen_after (s : Scan py) (w : World) (sink : SinkId) (rid : String) :
    rid ∈ (s.after w).seen sink ↔
      rid ∈ w.seen sink ∨ sink = s.sink ∧ ∃ r, s.posts? w = some r ∧ r.receivingId = rid := by
  rw [(after_sinks s w).2]
  cases hp : s.posts? w
  case none => simp
  case some r =>
    have hm : r.receivingId ∉ w.seen s.sink := (posts?_eq_some_iff.mp hp).2.2
    by_cases hk : sink = s.sink
    case pos => simp [World.emit, World.post, hk, hm, or_comm, eq_comm]
    case neg => simp [World.emit, World.post, hk, hm]

-- ### Where records belong

-- All subjects a scan may make a receiving_id of are in the set.
def NamesIn (T : Set Subject) (s : Scan py) (db : Db) : Prop :=
  ∀ id, id = "" ∨ (∃ row ∈ db.poInventory.rows, row.inventoryId = some id) →
    (s.poNumber, id, s.barcode) ∈ T

end Scan

-- Every record is stored under the receiving_id of its own subject.
def Db.Labelled (py : PyStd) (T : Set Subject) (db : Db) : Prop :=
  ∀ row ∈ db.receivingItems.rows, ∃ barcode, (row.purchaseOrder, row.inventoryId, barcode) ∈ T ∧
    row.receivingId = Subject.receivingId py (row.purchaseOrder, row.inventoryId, barcode)

namespace Scan

variable {s t : Scan py} {r r' : ReceivingRecord} {po serial : String}

-- What a scan saves is a record of its purchase order under the receiving_id of its own subject.
theorem saves?_subject (hn : s.NamesIn T db) (h : s.saves? db = some r) :
    r.purchaseOrder = s.poNumber ∧ (s.poNumber, r.inventoryId, s.barcode) ∈ T ∧
      r.receivingId = Subject.receivingId py (s.poNumber, r.inventoryId, s.barcode) := by
  unfold saves? at h
  split at h
  case h_1 row ht =>
    obtain ⟨id, hid, rfl⟩ := Option.map_eq_some_iff.mp h
    exact ⟨rfl, hn id (.inr ⟨row, (mem_of_target ht).1, hid⟩), rfl⟩
  case h_2 =>
    split at h
    case isTrue  => cases h
    case isFalse =>
      cases h
      exact ⟨rfl, hn "" (.inl rfl), rfl⟩

-- No row of another purchase order is where the record goes.
theorem purchaseOrder_of_receivingId (hT : T.InjOn (Subject.receivingId py))
    (hl : db.Labelled py T) (hs : s.NamesIn T db) (hr : s.saves? db = some r) {row : ItemRow}
    (hrow : row ∈ db.receivingItems.rows) (he : row.receivingId = r.receivingId) :
    row.purchaseOrder = s.poNumber := by
  have ⟨_, hm, hid⟩ := saves?_subject hs hr
  have ⟨_, hm', hid'⟩ := hl row hrow
  exact congrArg Prod.fst (hT hm' hm (hid'.symm.trans (he.trans hid)))

-- A claim on one purchase order leaves the open units of the others alone.
theorem unclaimedForPo_after (s : Scan py) (w : World) (hpo : s.poNumber ≠ po) :
    (s.after w).db.unclaimedForPo po = w.db.unclaimedForPo po := by
  have hp : (s.after w).db.unclaimedForPo po =
      (w.db.claim (s.claims? w.db) s.clock.claimedAt).unclaimedForPo po := by
    unfold Db.unclaimedForPo
    rw [poInventory_after]
  rw [hp]
  cases hc : s.claims? w.db
  case none => rw [Db.claim_none]
  case some id =>
    rw [Db.unclaimedForPo_claim, List.filter_eq_self]
    intro row hr
    rw [decide_eq_true_eq]
    intro hid
    obtain ⟨row', ht, hid'⟩ := Option.bind_eq_some_iff.mp hc
    have he := Relational.Table.eq_of_key_eq (Db.mem_unclaimedForPo.mp hr).1 (mem_of_target ht).1
      hid hid'
    exact hpo ((mem_of_target ht).2.1.symm.trans (he ▸ (Db.mem_unclaimedForPo.mp hr).2.1))

theorem joined_of_ne {ri : ItemRow} (h : ri.purchaseOrder ≠ po) : db.joined po serial ri = none :=
  if_neg (by simp [ItemRow.isReceived, h])

-- A record of one purchase order is not found on another one.
theorem findClaimedBySerial_after (hT : T.InjOn (Subject.receivingId py))
    (hl : w.db.Labelled py T) (hs : s.NamesIn T w.db) (hpo : s.poNumber ≠ po) :
    (s.after w).db.findClaimedBySerial po serial = w.db.findClaimedBySerial po serial := by
  rw [after_eq]
  split
  case h_2 => rfl
  case h_1 r hr =>
    have hsave : ((w.db.claim (s.claims? w.db) s.clock.claimedAt).saveRecord s.clock.savedAt
        r).findClaimedBySerial po serial = w.db.findClaimedBySerial po serial := by
      have hj : ((w.db.claim (s.claims? w.db) s.clock.claimedAt).saveRecord s.clock.savedAt
          r).joined po serial = w.db.joined po serial :=
        Db.joined_claim
      rw [Db.findClaimedBySerial_eq, Db.findClaimedBySerial_eq, hj]
      have hnew : r.purchaseOrder ≠ po := (saves?_subject hs hr).1 ▸ hpo
      refine Relational.Table.findSome?_upsert (joined_of_ne hnew) fun row hrow hk => ?_
      have hid : row.receivingId = r.receivingId := Option.some.inj hk
      have hold := purchaseOrder_of_receivingId hT hl hs hr hrow hid
      exact ⟨joined_of_ne (hold ▸ hpo), joined_of_ne hnew⟩
    unfold settle
    split
    case isTrue => exact hsave
    case isFalse => exact Db.findClaimedBySerial_setEmitted.trans hsave

-- ### Scans on different purchase orders

-- Two scans on different purchase orders, on a database whose records are where they belong.
structure Independent (T : Set Subject) (s t : Scan py) (db : Db) : Prop where
  injOn    : T.InjOn (Subject.receivingId py)
  labelled : db.Labelled py T
  left     : s.NamesIn T db
  right    : t.NamesIn T db
  po_ne    : s.poNumber ≠ t.poNumber

-- ### What one of them reads after the other

namespace Independent

theorem symm (h : Independent T s t db) : Independent T t s db :=
  ⟨h.injOn, h.labelled, h.right, h.left, h.po_ne.symm⟩

theorem retimed (h : Independent T s t db) (c d : Clock py) :
    Independent T (s.retimed c) (t.retimed d) db :=
  ⟨h.injOn, h.labelled, h.left, h.right, h.po_ne⟩

theorem receivingId_ne (h : Independent T s t db) (hr : s.saves? db = some r)
    (hr' : t.saves? db = some r') : r.receivingId ≠ r'.receivingId := by
  intro he
  have ⟨_, hm, hid⟩ := saves?_subject h.left hr
  have ⟨_, hm', hid'⟩ := saves?_subject h.right hr'
  exact h.po_ne (congrArg Prod.fst (h.injOn hm hm' (hid.symm.trans (he.trans hid'))))

theorem target (h : Independent T s t w.db) : s.target (t.after w).db = s.target w.db := by
  unfold Scan.target
  rw [unclaimedForPo_after t w h.po_ne.symm]

theorem duplicate (h : Independent T s t w.db) :
    s.duplicate (t.after w).db = s.duplicate w.db := by
  unfold Scan.duplicate
  rw [findClaimedBySerial_after h.injOn h.labelled h.right h.po_ne.symm]

theorem saves? (h : Independent T s t w.db) : s.saves? (t.after w).db = s.saves? w.db := by
  unfold Scan.saves?
  rw [h.target, h.duplicate]

theorem wasEmitted (h : Independent T s t w.db) (hr : s.saves? w.db = some r) :
    (t.after w).db.wasEmitted r.receivingId = w.db.wasEmitted r.receivingId := by
  have hf : ((t.after w).db.receivingItems.find r.receivingId).map ItemRow.untimed =
      (w.db.receivingItems.find r.receivingId).map ItemRow.untimed := by
    rw [find_after]
    split
    case h_1 r' hr' => rw [if_neg (h.receivingId_ne hr hr').symm]
    case h_2        => rfl
  rw [wasEmitted_eq_untimed, hf, ← wasEmitted_eq_untimed]

theorem posts? (h : Independent T s t w.db) : s.posts? (t.after w) = s.posts? w := by
  unfold Scan.posts?
  rw [h.saves?]
  cases hr : s.saves? w.db
  case none => rfl
  case some r =>
    have hm : r.receivingId ∈ (t.after w).seen s.sink ↔ r.receivingId ∈ w.seen s.sink := by
      rw [mem_seen_after, or_iff_left]
      rintro ⟨_, r', hp, he⟩
      exact h.receivingId_ne hr (posts?_eq_some_iff.mp hp).1 he.symm
    simp only [Option.filter_some, h.wasEmitted hr, hm]

end Independent

-- ### The same scans at other times

theorem saves?_retimed (c : Clock py) :
    (s.retimed c).saves? db = (s.saves? db).map (·.retimed c.timestamp) := by
  unfold saves?
  rw [show (s.retimed c).target db = s.target db from rfl,
    show (s.retimed c).duplicate db = s.duplicate db from rfl]
  cases s.target db
  case none =>
    simp only
    split <;> rfl
  case some row =>
    simp only
    cases row.inventoryId <;> rfl

theorem posts?_retimed (c : Clock py) :
    (s.retimed c).posts? w = (s.posts? w).map (·.retimed c.timestamp) := by
  unfold posts?
  rw [saves?_retimed]
  cases s.saves? w.db
  case none => rfl
  case some r =>
    rw [Option.map_some, Option.filter_some, Option.filter_some, apply_ite (Option.map _)]
    rfl

end Scan

-- ### Either order

-- What is left of a run when all times are taken away, and the order in which rows and items came.
structure World.Alike (w v : World) : Prop where
  catalog  : w.db.poInventory.rows.map PoRow.untimed = v.db.poInventory.rows.map PoRow.untimed
  records  : ∀ rid, (w.db.receivingItems.find rid).map ItemRow.untimed =
    (v.db.receivingItems.find rid).map ItemRow.untimed
  mappings : w.db.barcodeModelMap = v.db.barcodeModelMap
  board    : w.board.Perm v.board
  seen     : ∀ sink rid, rid ∈ w.seen sink ↔ rid ∈ v.seen sink

-- A claim of one row after a claim of another one.
theorem untimed_claimed_comm (i j : Option String) (a a' b b' : String) (row : PoRow) :
    ((row.claimed i a).claimed j b).untimed = ((row.claimed j b').claimed i a').untimed := by
  have hclosed (k : Option String) (c : String) :
      Db.isOpenSlot k { row with claimedAt := some c } = false := by
    simp [Db.isOpenSlot]
  unfold PoRow.claimed
  cases hi : Db.isOpenSlot i row
  all_goals cases hj : Db.isOpenSlot j row
  all_goals simp [hi, hj, hclosed, PoRow.untimed]

namespace Scan

variable {s t : Scan py} {r r' : ReceivingRecord} {rid : String}

theorem rows_after (s : Scan py) (w : World) :
    (s.after w).db.poInventory.rows =
      w.db.poInventory.rows.map (PoRow.claimed (s.claims? w.db) s.clock.claimedAt) := by
  rw [poInventory_after]
  rfl

theorem barcodeModelMap_after (s : Scan py) (w : World) :
    (s.after w).db.barcodeModelMap = w.db.barcodeModelMap := by
  rw [after_eq]
  unfold settle
  split
  case h_1 => split <;> rfl
  case h_2 => rfl

theorem claims?_after (h : Independent T s t w.db) :
    s.claims? (t.after w).db = s.claims? w.db := by
  unfold claims?
  rw [h.target]

theorem posted_retimed (c : Clock py) :
    (∃ r, (s.retimed c).posts? w = some r ∧ r.receivingId = rid) ↔
      ∃ r, s.posts? w = some r ∧ r.receivingId = rid := by
  rw [posts?_retimed]
  cases s.posts? w <;> simp

theorem Independent.alike (h : Independent T s t w.db) (c d : Clock py) :
    (t.after (s.after w)).Alike ((s.retimed c).after ((t.retimed d).after w)) := by
  have h' := h.retimed c d
  constructor
  case catalog =>
    rw [rows_after, rows_after, rows_after, rows_after, claims?_after h.symm, claims?_after h',
      List.map_map, List.map_map, List.map_map, List.map_map]
    exact List.map_congr_left fun row _ => untimed_claimed_comm ..
  case records =>
    intro rid
    rw [find_after, find_after, find_after, find_after, h.symm.saves?, h'.saves?, saves?_retimed,
      saves?_retimed]
    cases hs : s.saves? w.db
    case none => cases t.saves? w.db <;> rfl
    case some r =>
      cases ht : t.saves? w.db
      case none => rfl
      case some r' =>
        have hne := h.receivingId_ne hs ht
        simp only [Option.map_some]
        by_cases hr : r.receivingId = rid
        case pos => simp [hr, hr ▸ hne.symm]
        case neg =>
          simp only [ReceivingRecord.receivingId_retimed, ReceivingRecord.settledRow_retimed, hr,
            if_false]
          rfl
  case mappings => simp only [barcodeModelMap_after]
  case board =>
    rw [board_after, board_after, board_after, board_after, h.symm.posts?, h'.posts?,
      posts?_retimed, posts?_retimed, Option.map_map, Option.map_map, List.append_assoc,
      List.append_assoc]
    exact List.perm_append_comm.append_left w.board
  case seen =>
    intro sink rid
    rw [mem_seen_after, mem_seen_after, mem_seen_after, mem_seen_after, h.symm.posts?, h'.posts?,
      posted_retimed, posted_retimed, or_right_comm]
    rfl

end Scan

-- ### Reachable worlds

-- The calls that save no record.
def Port.SavesNothing : ∀ β, Port β → Prop
  | _, .saveRecord ..   => False
  | _, .claimAndSave .. => False
  | _, _                => True

-- The worlds that calls of the ports lead to from an empty repository. Records are saved by scans
-- only, which may be stopped anywhere, and all subjects of these scans are in the set.
inductive Reached (py : PyStd) (T : Set Subject) : World → Prop
  | empty {w : World} : w.db = .empty → Reached py T w
  | call {w w' : World} {β : Type} {op : Port β} {x : Except PyExc β} :
      Reached py T w → Port.SavesNothing β op → World.env β op w x w' → Reached py T w'
  | scan {w w' : World} {s : Scan py} :
      Reached py T w → s.NamesIn T w.db → Event.Step w (.stopped s) w' → Reached py T w'

namespace Db.Labelled

theorem congr (h : db.Labelled py T) (he : db'.receivingItems = db.receivingItems) :
    db'.Labelled py T := by
  unfold Db.Labelled
  rwa [he]

theorem setEmitted {now id : String} (h : db.Labelled py T) : (db.setEmitted now id).Labelled py T := by
  intro row hr
  obtain ⟨row', hr', rfl⟩ := mem_setEmitted.mp hr
  split
  case isTrue  => exact h row' hr'
  case isFalse => exact h row' hr'

theorem call {β : Type} {op : Port β} {x : Except PyExc β} (h : w.db.Labelled py T)
    (hop : Port.SavesNothing β op) (he : World.env β op w x w') : w'.db.Labelled py T := by
  cases x
  case error => rwa [World.env_error he]
  case ok b =>
    rw [World.env_ok_iff] at he
    cases op
    case saveRecord | claimAndSave => cases hop
    case markEmitted now id =>
      obtain ⟨db, hm, rfl⟩ := Event.transact_ok_iff.mp he
      cases Db.markEmitted_eq_ok hm
      exact h.setEmitted
    case upsertItems now items =>
      obtain ⟨db, hm, rfl⟩ := Event.transact_ok_iff.mp he
      exact h.congr (Db.upsertItems_eq_ok hm).2
    case replacePoItems now items =>
      obtain ⟨db, hm, rfl⟩ := Event.transact_ok_iff.mp he
      exact h.congr (Db.replacePoItems_eq_ok hm).2
    case emit | surfaceAttention =>
      cases he
      exact h.congr (by simp)
    all_goals cases he; exact h

theorem saveRecord {now barcode : String} {r : ReceivingRecord} (h : db.Labelled py T)
    (hm : (r.purchaseOrder, r.inventoryId, barcode) ∈ T)
    (hr : r.receivingId = Subject.receivingId py (r.purchaseOrder, r.inventoryId, barcode)) :
    (db.saveRecord now r).Labelled py T := by
  intro row hrow
  rcases mem_saveRecord hrow with hc | ⟨hold, _⟩
  · refine ⟨barcode, ?_⟩
    rw [hc.purchaseOrder, hc.inventoryId, hc.receivingId]
    exact ⟨hm, hr⟩
  · exact h row hold

theorem stopped {s : Scan py} (h : w.db.Labelled py T) (hs : s.NamesIn T w.db)
    (he : Event.Step w (.stopped s) w') : w'.db.Labelled py T := by
  cases he
  case stopped q hstep =>
    cases Scan.cut_of_steps hstep
    case before         => exact h
    case alreadyScanned => exact h
    case saved db r hsave hsettle =>
      have hdb : db.Labelled py T := by
        cases hsave
        case claim row id ht hid =>
          have hc : (w.db.claim (some id) s.clock.claimedAt).Labelled py T := h.congr rfl
          exact hc.saveRecord (hs id (.inr ⟨row, (Scan.mem_of_target ht).1, hid⟩)) rfl
        case miss => exact h.saveRecord (hs "" (.inl rfl)) rfl
      cases hsettle
      case before  => exact hdb
      case emitted => exact hdb.congr (by simp)
      case settled =>
        unfold Scan.settle
        split
        case isTrue  => exact hdb
        case isFalse => exact hdb.setEmitted

end Db.Labelled

theorem Reached.labelled (h : Reached py T w) : w.db.Labelled py T := by
  induction h
  case empty hw =>
    rw [hw]
    exact fun row hr => absurd hr List.not_mem_nil
  case call hop he ih   => exact ih.call hop he
  case scan hs hstep ih => exact ih.stopped hs hstep

-- Scans on different purchase orders commute: in either order, and at whatever times, they have the
-- same outcomes and leave the same behind.
theorem scans_commute {s t : Scan py} (hT : T.InjOn (Subject.receivingId py)) (hw : Reached py T w)
    (hs : s.NamesIn T w.db) (ht : t.NamesIn T w.db) (hpo : s.poNumber ≠ t.poNumber)
    (c d : Clock py) :
    (s.retimed c).outcome ((t.retimed d).after w) = s.outcome w ∧
    (t.retimed d).outcome w = t.outcome (s.after w) ∧
    (t.after (s.after w)).Alike ((s.retimed c).after ((t.retimed d).after w)) := by
  have h : Scan.Independent T s t w.db := ⟨hT, hw.labelled, hs, ht, hpo⟩
  have h' := h.retimed c d
  refine ⟨Scan.outcome_congr h'.target h'.duplicate, ?_, h.alike c d⟩
  exact Scan.outcome_congr h.symm.target.symm h.symm.duplicate.symm

-- A model that is due on two purchase orders.
def World.twoOrders : World := .loaded [.unit "1" "P" "A", .unit "2" "Q" "A"]

def Scan.sampleQ : Scan .ascii := ⟨"A", "Q", "S2", 0, .sample⟩

def Clock.later : Clock .ascii := { Clock.sample with
  claimedAt := "2026-06-19T11:00:00"
  savedAt   := "2026-06-19T11:00:00"
  markedAt  := "2026-06-19T11:00:00"
}

def sampleSubjects : List Subject :=
  ["", "1", "2"].flatMap fun id => [("P", id, "A"), ("Q", id, "A")]

theorem reached_twoOrders (T : Set Subject) : Reached .ascii T .twoOrders := by
  have h : Event.Step .init (.upsert sampleTime _ : Event .ascii) .twoOrders :=
    Event.step_loaded (by decide +kernel)
  cases h
  case upsert h =>
    have hop (items : List LineItem) : Port.SavesNothing Unit (.upsertItems sampleTime items) :=
      trivial
    exact .call (.empty rfl) (hop _) h

theorem namesIn_twoOrders {s : Scan .ascii} (hb : s.barcode = "A")
    (hpo : s.poNumber = "P" ∨ s.poNumber = "Q") :
    s.NamesIn { t | t ∈ sampleSubjects } World.twoOrders.db := by
  have hrows : ∀ row ∈ World.twoOrders.db.poInventory.rows,
      row.inventoryId = some "1" ∨ row.inventoryId = some "2" := by
    decide +kernel
  intro id hid
  have hids : id = "" ∨ id = "1" ∨ id = "2" := by
    rcases hid with rfl | ⟨row, hr, hi⟩
    · exact .inl rfl
    · rcases hrows row hr with h | h
      all_goals simp_all
  rw [hb]
  rcases hpo with h | h
  all_goals
    rw [h]
    rcases hids with rfl | rfl | rfl
  all_goals simp [sampleSubjects]

-- The unit of either order is received, whichever of the scans is first.
theorem scans_commute_sample :
    let w : World := .twoOrders
    let s : Scan .ascii := .sample
    let t : Scan .ascii := .sampleQ
    s.answer w = some .received ∧ t.answer w = some .received ∧
    (s.retimed .later).outcome ((t.retimed .later).after w) = s.outcome w ∧
    (t.retimed .later).outcome w = t.outcome (s.after w) ∧
    (t.after (s.after w)).Alike ((s.retimed .later).after ((t.retimed .later).after w)) := by
  intro w s t
  have hall : ∀ a ∈ sampleSubjects, ∀ b ∈ sampleSubjects,
      Subject.receivingId .ascii a = Subject.receivingId .ascii b → a = b := by
    decide +kernel
  have hT : Set.InjOn (Subject.receivingId .ascii) { t | t ∈ sampleSubjects } :=
    fun a ha b hb => hall a ha b hb
  have hs : s.NamesIn { t | t ∈ sampleSubjects } w.db := namesIn_twoOrders rfl (.inl rfl)
  have ht : t.NamesIn { t | t ∈ sampleSubjects } w.db := namesIn_twoOrders rfl (.inr rfl)
  refine ⟨by decide +kernel, by decide +kernel, ?_⟩
  exact scans_commute hT (reached_twoOrders _) hs ht (by decide) .later .later

end ReceivingApp
