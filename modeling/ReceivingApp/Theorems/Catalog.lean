import ReceivingApp.Adapters.Source
import ReceivingApp.Theorems.Database
import ReceivingApp.Theorems.Runs

open Interaction Relational

namespace ReceivingApp

-- ### Rows of line items

-- The required keys of a line item are there, and what must not be NULL is not.
structure LineItem.Insertable (item : LineItem) : Prop where
  inventoryId   : item.inventoryId ≠ none
  purchaseOrder : ∃ po, item.purchaseOrder = some (some po)
  modelNumber   : ∃ m, item.modelNumber = some (some m)
  createdAt     : item.createdAt ≠ some none

-- A row is an unclaimed one with the fields of the line item.
structure PoRow.Shows (row : PoRow) (item : LineItem) : Prop where
  purchaseOrder : item.purchaseOrder = some (some row.purchaseOrder)
  modelNumber   : item.modelNumber = some (some row.modelNumber)
  description   : item.description = row.description
  brand         : item.brand = row.brand
  vendor        : item.vendor = row.vendor
  tags          : item.tags = row.tags
  claimedAt     : row.claimedAt = none

namespace Db

variable {op now : String} {item : LineItem} {items : List LineItem} {row : PoRow}
variable {t t' : Table PoRow.inventoryId}

theorem notNull_eq_ok {column s : String} {v : Option String} :
    notNull op column v = .ok s ↔ v = some s := by
  cases v <;> simp [notNull]

theorem subscript_eq_ok {key : String} {v : Option (Option String)} {s : Option String} :
    subscript key v = .ok s ↔ v = some s := by
  cases v <;> simp [subscript]

theorem newRow_eq_ok_iff :
    newRow op now item = .ok row ↔
      item.inventoryId = some row.inventoryId ∧ row.Shows item ∧
        item.createdAt.getD (some now) = some row.createdAt := by
  simp only [newRow, Except.bind_eq_ok, subscript_eq_ok, notNull_eq_ok]
  constructor
  case mp =>
    rintro ⟨_, hi, _, hp, _, hm, _, rfl, _, rfl, _, hc, hr⟩
    cases hr
    exact ⟨hi, ⟨hp, hm, rfl, rfl, rfl, rfl, rfl⟩, hc⟩
  case mpr =>
    rintro ⟨hi, hs, hc⟩
    refine ⟨_, hi, _, hs.purchaseOrder, _, hs.modelNumber, _, rfl, _, rfl, _, hc, ?_⟩
    rw [hs.description, hs.brand, hs.vendor, hs.tags, ← hs.claimedAt]
    rfl

theorem exists_newRow_iff : (∃ row, newRow op now item = .ok row) ↔ item.Insertable := by
  constructor
  case mp =>
    intro ⟨row, h⟩
    have ⟨hi, hs, hc⟩ := newRow_eq_ok_iff.mp h
    refine ⟨by simp [hi], ⟨_, hs.purchaseOrder⟩, ⟨_, hs.modelNumber⟩, fun hn => ?_⟩
    simp [hn] at hc
  case mpr =>
    intro h
    have ⟨id, hi⟩ := Option.ne_none_iff_exists'.mp h.inventoryId
    have ⟨po, hp⟩ := h.purchaseOrder
    have ⟨m, hm⟩ := h.modelNumber
    have ⟨at_, hc⟩ : ∃ at_, item.createdAt.getD (some now) = some at_ := by
      cases hc : item.createdAt
      case none => exact ⟨now, rfl⟩
      case some v =>
        cases v
        case none   => exact absurd hc h.createdAt
        case some s => exact ⟨s, rfl⟩
    exact ⟨⟨id, po, m, item.description, item.brand, item.vendor, item.tags, at_, none⟩,
      newRow_eq_ok_iff.mpr ⟨hi, ⟨hp, hm, rfl, rfl, rfl, rfl, rfl⟩, hc⟩⟩

-- ### Loads of line items

-- A load succeeds exactly on insertable line items, and inserts one row for each of them.
theorem foldlM_insertItem_eq_ok_iff :
    items.foldlM (insertItem op now) t = .ok t' ↔
      ∃ ps : List (LineItem × PoRow), ps.map Prod.fst = items ∧
        (∀ p ∈ ps, newRow op now p.1 = .ok p.2) ∧
        t' = Table.putAll inventoryId_updateRow t (ps.map Prod.snd) := by
  induction items generalizing t
  case nil =>
    constructor
    case mp  => rintro ⟨⟩; exact ⟨[], rfl, by simp, rfl⟩
    case mpr =>
      rintro ⟨ps, hps, _, rfl⟩
      cases List.map_eq_nil_iff.mp hps
      rfl
  case cons item items ih =>
    rw [List.foldlM_cons, Except.bind_eq_ok]
    constructor
    case mp =>
      rintro ⟨t₁, hi, h⟩
      have ⟨row, hr, h₁⟩ := Except.bind_eq_ok.mp hi
      cases h₁
      have ⟨ps, hps, hrows, ht⟩ := ih.mp h
      exact ⟨(item, row) :: ps, by rw [List.map_cons, hps], by simpa [hr] using hrows, ht⟩
    case mpr =>
      rintro ⟨ps, hps, hrows, rfl⟩
      rcases ps with _ | ⟨⟨item', row⟩, ps⟩
      case nil => cases hps
      case cons =>
        cases hps
        have hr : newRow op now item' = .ok row := hrows _ List.mem_cons_self
        refine ⟨t.upsert row (updateRow row) (inventoryId_updateRow row), ?_, ?_⟩
        · exact Except.bind_eq_ok.mpr ⟨row, hr, rfl⟩
        · exact ih.mpr ⟨ps, rfl, fun p hp => hrows p (List.mem_cons_of_mem _ hp), rfl⟩

end Db

-- ### The catalog after a refresh

-- The last of the line items with an inventory_id.
def lastOf (items : List LineItem) (id : Option String) : Option LineItem :=
  (items.filter (fun item => item.inventoryId = some id)).getLast?

-- The rows with an inventory_id, which may be NULL.
def rowsOf (t : Table PoRow.inventoryId) (id : Option String) : List PoRow :=
  t.rows.filter (fun row => row.inventoryId = id)

-- A catalog has one row for each inventory_id of the line items, which shows the last of them, and
-- nothing else.
structure Rebuilt (items : List LineItem) (t : Table PoRow.inventoryId) : Prop where
  one  : ∀ id item, lastOf items id = some item → ∃ row, rowsOf t id = [row] ∧ row.Shows item
  only : ∀ id, lastOf items id = none → rowsOf t id = []

-- What the row of a line item shows.
def PoRow.fields (row : PoRow) :=
  (row.purchaseOrder, row.modelNumber, row.description, row.brand, row.vendor, row.tags)

theorem PoRow.Shows.congr {row row' : PoRow} {item : LineItem} (h : row.Shows item)
    (hf : row'.fields = row.fields) (hc : row'.claimedAt = none) : row'.Shows item := by
  simp only [PoRow.fields, Prod.mk.injEq] at hf
  have ⟨hp, hm, hd, hb, hv, ht⟩ := hf
  exact ⟨hp ▸ h.purchaseOrder, hm ▸ h.modelNumber, hd ▸ h.description, hb ▸ h.brand, hv ▸ h.vendor,
    ht ▸ h.tags, hc⟩

section Load

variable {op now : String} {ps : List (LineItem × PoRow)}

-- The rows a list of line items is inserted as.
abbrev loaded (ps : List (LineItem × PoRow)) : Table PoRow.inventoryId :=
  Table.putAll Db.inventoryId_updateRow .empty (ps.map Prod.snd)

theorem filter_item_eq (hps : ∀ p ∈ ps, Db.newRow op now p.1 = .ok p.2) (id : Option String) :
    (ps.map Prod.fst).filter (fun item => item.inventoryId = some id) =
      (ps.filter (fun p => p.2.inventoryId = id)).map Prod.fst := by
  rw [List.filter_map]
  refine congrArg _ (List.filter_congr fun p hp => ?_)
  have hi := (Db.newRow_eq_ok_iff.mp (hps p hp)).1
  simp [hi]

theorem filter_row_eq (id : Option String) :
    (ps.map Prod.snd).filter (fun row => row.inventoryId = id) =
      (ps.filter (fun p => p.2.inventoryId = id)).map Prod.snd := by
  rw [List.filter_map]
  rfl

theorem unclaimed_loaded (hps : ∀ p ∈ ps, Db.newRow op now p.1 = .ok p.2) :
    ∀ row ∈ (loaded ps).rows, row.claimedAt = none := by
  refine Table.forall_putAll _ (fun _ _ h => h) (fun row hr => ?_) (by simp [Table.empty])
  obtain ⟨p, hp, he⟩ := List.mem_map.mp hr
  exact he ▸ (Db.newRow_eq_ok_iff.mp (hps p hp)).2.1.claimedAt

theorem fields_find_loaded (id : String) :
    ((loaded ps).find id).map PoRow.fields =
      (ps.filter (fun p => p.2.inventoryId = some id)).getLast?.map (·.2.fields) := by
  have hview (new old : PoRow) : (Db.updateRow new old).fields = new.fields := rfl
  rw [loaded, Table.find_putAll _ hview, filter_row_eq, List.getLast?_map]
  cases (ps.filter (fun p => p.2.inventoryId = some id)).getLast? <;> rfl

theorem rowsOf_loaded_none :
    rowsOf (loaded ps) none = (ps.filter (fun p => p.2.inventoryId = none)).map Prod.snd := by
  rw [rowsOf, loaded, Table.filter_null_putAll, filter_row_eq]
  rfl

theorem lastOf_eq (hps : ∀ p ∈ ps, Db.newRow op now p.1 = .ok p.2) (id : Option String) :
    lastOf (ps.map Prod.fst) id =
      (ps.filter (fun p => p.2.inventoryId = id)).getLast?.map Prod.fst := by
  rw [lastOf, filter_item_eq hps, List.getLast?_map]

theorem shows_of_getLast? (hps : ∀ p ∈ ps, Db.newRow op now p.1 = .ok p.2) {id : Option String}
    {p : LineItem × PoRow} (h : (ps.filter (fun p => p.2.inventoryId = id)).getLast? = some p) :
    p.2.Shows p.1 :=
  (Db.newRow_eq_ok_iff.mp (hps p (List.mem_filter.mp (List.mem_of_getLast? h)).1)).2.1

theorem rowsOf_loaded_some (hps : ∀ p ∈ ps, Db.newRow op now p.1 = .ok p.2) {id : String}
    {p : LineItem × PoRow}
    (h : (ps.filter (fun p => p.2.inventoryId = some id)).getLast? = some p) :
    ∃ row, rowsOf (loaded ps) (some id) = [row] ∧ row.Shows p.1 := by
  have hf : ((loaded ps).find id).map PoRow.fields = _ := fields_find_loaded id
  rw [h, Option.map_some] at hf
  have ⟨row, hrow, he⟩ := Option.map_eq_some_iff.mp hf
  refine ⟨row, by rw [rowsOf, Table.filter_key, hrow, Option.toList_some], ?_⟩
  exact (shows_of_getLast? hps h).congr he (unclaimed_loaded hps row (Table.mem_of_find hrow))

-- A load shows the last line item of each inventory_id, except that NULL may have several rows.
theorem rebuilt_loaded_iff (hps : ∀ p ∈ ps, Db.newRow op now p.1 = .ok p.2) :
    Rebuilt (ps.map Prod.fst) (loaded ps) ↔
      (ps.map Prod.fst).countP (fun item => item.inventoryId = some none) ≤ 1 := by
  rw [List.countP_eq_length_filter, filter_item_eq hps, List.length_map]
  constructor
  case mp =>
    intro h
    cases hl : (ps.filter (fun p => p.2.inventoryId = none)).getLast?
    case none => simp [List.getLast?_eq_none_iff.mp hl]
    case some p =>
      have ⟨row, hrow, _⟩ := h.one none p.1 (by rw [lastOf_eq hps, hl]; rfl)
      rw [rowsOf_loaded_none] at hrow
      have hlen := congrArg List.length hrow
      rw [List.length_map, List.length_singleton] at hlen
      exact Nat.le_of_eq hlen
  case mpr =>
    intro hc
    constructor
    case one =>
      intro id item hi
      rw [lastOf_eq hps] at hi
      have ⟨p, hp, he⟩ := Option.map_eq_some_iff.mp hi
      subst he
      cases id
      case some id => exact rowsOf_loaded_some hps hp
      case none =>
        refine ⟨p.2, ?_, shows_of_getLast? hps hp⟩
        rw [rowsOf_loaded_none]
        generalize ps.filter (fun p => p.2.inventoryId = none) = l at hc hp
        rcases l with _ | ⟨p', _ | _⟩
        case nil       => cases hp
        case cons.nil  => cases hp; rfl
        case cons.cons => simp at hc
    case only =>
      intro id hi
      rw [lastOf_eq hps, Option.map_eq_none_iff, List.getLast?_eq_none_iff] at hi
      cases id
      case none    => rw [rowsOf_loaded_none, hi, List.map_nil]
      case some id =>
        have hf : ((loaded ps).find id).map PoRow.fields = _ := fields_find_loaded id
        rw [hi, List.getLast?_nil, Option.map_none, Option.map_eq_none_iff] at hf
        rw [rowsOf, Table.filter_key, hf, Option.toList_none]

end Load

-- ### All or nothing

section AllOrNothing

variable {fetched : Except PyExc (List LineItem)} {now : String} {confirmed : Bool} {w : World}

-- A refresh leaves the other tables alone, and the catalog too, unless it is a success and rebuilds
-- it.
structure AllOrNothing (fetched : Except PyExc (List LineItem)) (now : String) (confirmed : Bool)
    (w : World) : Prop where
  others  : ∀ x w', (refreshAll fetched now confirmed).run World.handle w = (x, w') →
    w'.db.receivingItems = w.db.receivingItems ∧ w'.db.barcodeModelMap = w.db.barcodeModelMap
  kept    : ∀ x w', (refreshAll fetched now confirmed).run World.handle w = (x, w') →
    x ≠ .ok .success → w'.db.poInventory = w.db.poInventory
  rebuilt : ∀ w', (refreshAll fetched now confirmed).run World.handle w = (.ok .success, w') →
    ∃ items, fetched = .ok items ∧ Rebuilt items w'.db.poInventory

-- Several of the fetched line items have no inventory_id, and nothing else is wrong with any of
-- them.
def NullsCollide (fetched : Except PyExc (List LineItem)) (confirmed : Bool) : Prop :=
  confirmed ∧ ∃ items, fetched = .ok items ∧ (∀ item ∈ items, item.Insertable) ∧
    2 ≤ items.countP (fun item => item.inventoryId = some none)

theorem replacePoItems_eq_ok_iff {db db' : Db} {items : List LineItem} :
    db.replacePoItems now items = .ok db' ↔
      ∃ ps : List (LineItem × PoRow), ps.map Prod.fst = items ∧
        (∀ p ∈ ps, Db.newRow "replace_po_items" now p.1 = .ok p.2) ∧
        db' = { db with poInventory := loaded ps } := by
  rw [Db.replacePoItems, Except.bind_eq_ok]
  constructor
  case mp =>
    rintro ⟨t, ht, h⟩
    cases h
    have ⟨ps, hps, hrows, he⟩ := Db.foldlM_insertItem_eq_ok_iff.mp ht
    exact ⟨ps, hps, hrows, by rw [he]⟩
  case mpr =>
    rintro ⟨ps, hps, hrows, rfl⟩
    exact ⟨_, Db.foldlM_insertItem_eq_ok_iff.mpr ⟨ps, hps, hrows, rfl⟩, rfl⟩

-- Insertable line items have rows.
theorem exists_rows {items : List LineItem} (op now : String)
    (h : ∀ item ∈ items, item.Insertable) :
    ∃ ps : List (LineItem × PoRow), ps.map Prod.fst = items ∧
      ∀ p ∈ ps, Db.newRow op now p.1 = .ok p.2 := by
  induction items
  case nil => exact ⟨[], rfl, by simp⟩
  case cons item items ih =>
    have ⟨row, hr⟩ : ∃ row, Db.newRow op now item = .ok row :=
      Db.exists_newRow_iff.mpr (h item List.mem_cons_self)
    have ⟨ps, hps, hrows⟩ := ih fun i hi => h i (List.mem_cons_of_mem _ hi)
    exact ⟨(item, row) :: ps, by rw [List.map_cons, hps], by simpa [hr] using hrows⟩

theorem run_refreshAll_loaded {ps : List (LineItem × PoRow)} (hne : ps ≠ [])
    (hps : ∀ p ∈ ps, Db.newRow "replace_po_items" now p.1 = .ok p.2) :
    (refreshAll (.ok (ps.map Prod.fst)) now true).run World.handle w =
      (.ok .success, { w with db.poInventory := loaded ps }) := by
  have hr : w.db.replacePoItems now (ps.map Prod.fst) =
      .ok { w.db with poInventory := loaded ps } :=
    replacePoItems_eq_ok_iff.mpr ⟨ps, rfl, hps, rfl⟩
  rw [Event.run_refreshAll (by simpa using hne), hr]
  rfl

-- What a refresh comes to: nothing, or a load.
theorem run_refreshAll_cases (fetched : Except PyExc (List LineItem)) (now : String)
    (confirmed : Bool) (w : World) :
    (∃ x, (refreshAll fetched now confirmed).run World.handle w = (x, w) ∧ x ≠ .ok .success) ∨
    ∃ ps, confirmed ∧ fetched = .ok (ps.map Prod.fst) ∧
      (∀ p ∈ ps, Db.newRow "replace_po_items" now p.1 = .ok p.2) ∧
      (refreshAll fetched now confirmed).run World.handle w =
        (.ok .success, { w with db.poInventory := loaded ps }) := by
  cases confirmed
  case false => exact .inl ⟨.ok .cancelled, rfl, by simp⟩
  case true =>
    rcases fetched with e | items
    case error => exact .inl ⟨.error e, rfl, by simp⟩
    case ok =>
      by_cases hi : items = []
      case pos => exact .inl ⟨.ok .emptyAbort, by rw [hi]; rfl, by simp⟩
      case neg =>
        cases hr : w.db.replacePoItems now items
        case error e =>
          refine .inl ⟨.error e, ?_, by simp⟩
          rw [Event.run_refreshAll hi, hr]
          rfl
        case ok db =>
          have ⟨ps, hps, hrows, _⟩ := replacePoItems_eq_ok_iff.mp hr
          subst hps
          exact .inr ⟨ps, rfl, rfl, hrows, run_refreshAll_loaded (by simpa using hi) hrows⟩

theorem run_of_nullsCollide (h : NullsCollide fetched confirmed) :
    ∃ w', (refreshAll fetched now confirmed).run World.handle w = (.ok .success, w') := by
  obtain ⟨rfl, items, rfl, hi, hn⟩ := h
  have ⟨ps, hps, hrows⟩ := exists_rows "replace_po_items" now hi
  subst hps
  refine ⟨_, run_refreshAll_loaded (fun he => ?_) hrows⟩
  simp [he] at hn

theorem allOrNothing_of_unchanged {x : Except PyExc RefreshResult}
    (hrun : (refreshAll fetched now confirmed).run World.handle w = (x, w))
    (hx : x ≠ .ok .success) : AllOrNothing fetched now confirmed w := by
  refine ⟨?_, ?_, ?_⟩
  · intro _ _ h
    cases hrun.symm.trans h
    exact ⟨rfl, rfl⟩
  · intro _ _ h _
    cases hrun.symm.trans h
    rfl
  · intro _ h
    cases hrun.symm.trans h
    exact absurd rfl hx

theorem allOrNothing_iff_rebuilt {items : List LineItem} {t : Table PoRow.inventoryId}
    (hrun : (refreshAll (.ok items) now confirmed).run World.handle w =
      (.ok .success, { w with db.poInventory := t })) :
    AllOrNothing (.ok items) now confirmed w ↔ Rebuilt items t := by
  constructor
  case mp =>
    intro h
    have ⟨_, hi, hr⟩ := h.rebuilt _ hrun
    cases hi
    exact hr
  case mpr =>
    intro hr
    refine ⟨?_, ?_, ?_⟩
    · intro _ _ h
      cases hrun.symm.trans h
      exact ⟨rfl, rfl⟩
    · intro _ _ h hx
      cases hrun.symm.trans h
      exact absurd rfl hx
    · intro _ h
      cases hrun.symm.trans h
      exact ⟨_, rfl, hr⟩

-- A refresh is all or nothing except where several line items have no inventory_id: these become
-- several rows.
theorem allOrNothing_iff :
    AllOrNothing fetched now confirmed w ↔ ¬NullsCollide fetched confirmed := by
  rcases run_refreshAll_cases fetched now confirmed w with ⟨x, hrun, hx⟩ | ⟨ps, hc, rfl, hps, hrun⟩
  case inl =>
    refine iff_of_true (allOrNothing_of_unchanged hrun hx) fun h => ?_
    have ⟨w', hs⟩ : ∃ w', (refreshAll fetched now confirmed).run World.handle w = (_, w') :=
      run_of_nullsCollide h
    cases hrun.symm.trans hs
    exact hx rfl
  case inr =>
    rw [allOrNothing_iff_rebuilt hrun, rebuilt_loaded_iff hps, NullsCollide]
    constructor
    case mp =>
      rintro hle ⟨_, _, hi, _, hn⟩
      cases hi
      omega
    case mpr =>
      intro h
      refine Nat.not_lt.mp fun hn => h ⟨hc, _, rfl, fun item hi => ?_, hn⟩
      have ⟨p, hp, he⟩ := List.mem_map.mp hi
      exact he ▸ Db.exists_newRow_iff.mp ⟨p.2, hps p hp⟩

-- Two line items without an inventory_id.
def nullItems : List LineItem := List.replicate 2 { LineItem.unit "1" "P" "A" with
  inventoryId := some none
}

theorem not_allOrNothing :
    ¬∀ (fetched : Except PyExc (List LineItem)) (confirmed : Bool) (w : World),
      AllOrNothing fetched sampleTime confirmed w := by
  intro h
  have ⟨items, hi, hr⟩ := (h (.ok nullItems) true .init).rebuilt _ rfl
  cases hi
  have ⟨row, hrow, _⟩ := hr.one none _ rfl
  have hlen := congrArg List.length hrow
  rw [List.length_singleton] at hlen
  exact absurd hlen (by decide +kernel)

end AllOrNothing

-- ### Units of the export

def unitId (row : CsvRow) : Option String :=
  let invId := strip (row.cell "Inventory Id")
  if invId = "" then none else some invId

-- The inventory_ids of an export that are not blank.
def unitIds (table : List (List String)) : List String :=
  ((table.drop 1).filter (fun cells => cells ≠ [])).filterMap (fun cells =>
    unitId (.read (table.headD []) cells))

theorem inventoryId_parseRow {row : CsvRow} :
    (parseRow row).map (·.inventoryId) = (unitId row).map (fun id => some (some id)) := by
  unfold parseRow unitId
  dsimp only
  split <;> rfl

theorem inventoryId_parseOnOrderCsv {table : List (List String)} {items : List LineItem}
    (h : parseOnOrderCsv table = .ok items) :
    items.map (·.inventoryId) = ((unitIds table).map some).map some := by
  simp only [parseOnOrderCsv] at h
  split at h
  case isTrue  => cases h
  case isFalse =>
    cases h
    simp only [unitIds, List.map_filterMap, inventoryId_parseRow, Option.map_map]
    rfl

theorem inventoryId_rows {op now : String} {ps : List (LineItem × PoRow)} {ids : List String}
    (hps : ∀ p ∈ ps, Db.newRow op now p.1 = .ok p.2)
    (hi : (ps.map Prod.fst).map (·.inventoryId) = (ids.map some).map some) :
    (ps.map Prod.snd).map (·.inventoryId) = ids.map some := by
  have h : (ps.map Prod.fst).map (·.inventoryId) =
      ((ps.map Prod.snd).map (·.inventoryId)).map some := by
    simp only [List.map_map]
    exact List.map_congr_left fun p hp => (Db.newRow_eq_ok_iff.mp (hps p hp)).1
  rw [h] at hi
  exact List.map_injective_iff.mpr (fun _ _ h => Option.some.inj h) hi

-- A successful refresh from an export leaves one row for each unit exactly if no inventory_id is
-- listed twice.
theorem countPoItems_iff {table : List (List String)} {items : List LineItem} {now : String}
    {w w' : World} (hp : parseOnOrderCsv table = .ok items)
    (hr : Program.Returns World.env w (refreshAll (.ok items) now true) w' .success) :
    w'.db.countPoItems = items.length ↔ (unitIds table).Nodup := by
  have hrun := (Program.returns_iff_run Event.refreshAll_propagates).mp hr
  rcases run_refreshAll_cases (.ok items) now true w with ⟨x, hx, hne⟩ | ⟨ps, _, hi, hps, hs⟩
  case inl =>
    cases hrun.symm.trans hx
    exact absurd rfl hne
  case inr =>
    cases hrun.symm.trans hs
    cases hi
    have hids := inventoryId_rows hps (inventoryId_parseOnOrderCsv hp)
    have hn : ∀ row ∈ ps.map Prod.snd, row.inventoryId ≠ none := fun row hrow hnone => by
      have hm : none ∈ (unitIds table).map some := by
        rw [← hids, ← hnone]
        exact List.mem_map_of_mem hrow
      simp at hm
    have hl := Table.length_putAll_iff Db.inventoryId_updateRow hn
    rw [hids, List.nodup_map_iff (fun _ _ h => Option.some.inj h), List.length_map] at hl
    rw [List.length_map]
    exact hl

-- An export of two units with a line that lists none, and one with a unit listed twice.
def exportApart : List (List String) :=
  [["Inventory Id", "PO #", "Model"], ["1", "P", "A"], [" ", "P", "B"], ["2", "P", "A"]]

def exportTwice : List (List String) :=
  [["Inventory Id", "PO #", "Model"], ["1", "P", "A"], [" 1", "P", "B"]]

theorem returns_refreshed {items : List LineItem} (hi : items ≠ [])
    (h : (Db.empty.replacePoItems sampleTime items).isOk) :
    Program.Returns World.env .init (refreshAll (.ok items) sampleTime true)
      (World.init.refreshed items) .success := by
  have hs : Event.Step .init (.refresh sampleTime items : Event .ascii) _ :=
    Event.step_refreshed hi h
  cases hs
  case refresh hr => exact hr

theorem countPoItems_sample :
    (World.init.refreshed [.unit "1" "P" "A", .unit "2" "P" "A"]).db.countPoItems = 2 ↔
      (unitIds exportApart).Nodup :=
  countPoItems_iff (by decide +kernel) (returns_refreshed (by decide) (by decide +kernel))

-- Of a unit that is listed twice the catalog has one row.
theorem not_countPoItems :
    ¬∀ (table : List (List String)) (items : List LineItem) (w w' : World),
      parseOnOrderCsv table = .ok items →
      Program.Returns World.env w (refreshAll (.ok items) sampleTime true) w' .success →
      w'.db.countPoItems = items.length := by
  intro h
  have hc := h exportTwice [.unit "1" "P" "A", .unit "1" "P" "B"] _ _ (by decide +kernel)
    (returns_refreshed (by decide) (by decide +kernel))
  exact absurd hc (by decide +kernel)

end ReceivingApp
