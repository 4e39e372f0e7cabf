import ReceivingApp.Adapters.BoardApi
import ReceivingApp.Services.ReceiveSync
import ReceivingApp.Theorems.Loaded
import ReceivingApp.Theorems.Runs

open Interaction Program

namespace ReceivingApp

open BoardApi

-- ### The item on the board

-- The board has created the item, and answers with the texts it was given.
structure Echoes (cols : Columns) (created : CreatedItem) (item : ApiItem) : Prop where
  id     : item.id ≠ ""
  name   : item.name = created.itemName
  column : ∀ col text, (created.columnValues cols).get? col = some (.str text) →
    ∃ cv ∈ item.columnValues, cv.id = col
  text   : ∀ col text, (created.columnValues cols).get? col = some (.str text) →
    ∀ cv ∈ item.columnValues, cv.id = col → cv.text = some text

-- The robot is handed the unit of the record, in an item that it takes up.
structure HandsOver (r : ReceivingRecord) (item : ReadyItem) : Prop where
  poNumber    : item.poNumber = some r.purchaseOrder
  inventoryId : item.inventoryId = some r.inventoryId
  model       : item.model = some r.modelNumber
  serial      : item.serial = some r.serial
  valid       : item.isValid

section Echoes

variable {cols : Columns} {created : CreatedItem} {item : ApiItem}

theorem colText_of_echoes (h : Echoes cols created item) {col text : String}
    (hg : (created.columnValues cols).get? col = some (.str text)) :
    colText item col = some text := by
  unfold colText
  split
  case h_1 cv hf =>
    have hm : cv ∈ item.columnValues := List.mem_reverse.mp (List.mem_of_find?_eq_some hf)
    exact h.text col text hg cv hm (by simpa using List.find?_some hf)
  case h_2 hf =>
    have ⟨cv, hm, hid⟩ := h.column col text hg
    have hn := List.find?_eq_none.mp hf cv (List.mem_reverse.mpr hm)
    exact absurd hid (by simpa using hn)

-- Different columns do not get into each other's way.
theorem columnValues_eq (hc : cols.ids.Nodup) (created : CreatedItem) :
    created.columnValues cols = [
      (cols.inventoryId, .str created.inventoryId),
      (cols.model,       .str created.model),
      (cols.serial,      .str created.serial),
      (cols.status,      .dict [("label", .str created.statusLabel)])
    ] := by
  obtain ⟨⟨him, his, hit⟩, ⟨hms, hmt⟩, hst⟩ := Columns.nodup_ids_iff.mp hc
  simp [CreatedItem.columnValues, Dict.update, Dict.set, him, his, hit, hms, hmt, hst]

theorem parseItem_of_echoes (hc : cols.ids.Nodup) (h : Echoes cols created item) :
    parseItem cols item = {
      itemId      := some item.id
      poNumber    := some created.itemName
      inventoryId := some created.inventoryId
      model       := some created.model
      serial      := some created.serial
    } := by
  have hv := columnValues_eq hc created
  obtain ⟨⟨him, his, _⟩, ⟨hms, _⟩, _⟩ := Columns.nodup_ids_iff.mp hc
  have hi : colText item cols.inventoryId = some created.inventoryId :=
    colText_of_echoes h (by simp [hv])
  have hm : colText item cols.model = some created.model :=
    colText_of_echoes h (by simp [hv, Ne.symm him])
  have hs : colText item cols.serial = some created.serial :=
    colText_of_echoes h (by simp [hv, Ne.symm his, Ne.symm hms])
  simp [parseItem, h.name, hi, hm, hs]

end Echoes

-- ### The record that is emitted

def Port.emitted : ∀ {β : Type}, Port β → Option ReceivingRecord
  | _, emit _ record => some record
  | _, _             => none

-- The calls that emit no other record.
def Port.EmitsOnly (r : ReceivingRecord) : ∀ β, Port β → Prop :=
  fun _ op => ∀ r', op.emitted = some r' → r' = r

namespace Scan

variable {py : PyStd} {s : Scan py} {w : World} {r : ReceivingRecord} {row : PoRow} {id : String}

-- The scan reads the candidates in the given world, and comes to emit the record. Between its calls
-- anything may happen to the world.
def Emits (s : Scan py) (w : World) (r : ReceivingRecord) : Prop :=
  ∃ f w₁ w₂ k, s.program = .call (.unclaimedForPo s.poNumber) f ∧
    Steps (Ui.Shared World.env) w₁ (f (.ok (w.db.unclaimedForPo s.poNumber))) w₂
      (.call (.emit s.sink r) k)

theorem emits_iff : s.Emits w r ↔ ∃ w₁ w₂ k, Steps (Ui.Shared World.env) w₁
    (s.afterRead (w.db.unclaimedForPo s.poNumber)) w₂ (.call (.emit s.sink r) k) := by
  constructor
  case mp =>
    intro ⟨f, w₁, w₂, k, hf, hs⟩
    change Program.call _ (fun c => ofExcept c >>= s.afterRead) = Program.call _ f at hf
    cases hf
    exact ⟨w₁, w₂, k, hs⟩
  case mpr => exact fun ⟨w₁, w₂, k, hs⟩ => ⟨_, w₁, w₂, k, s.program_eq, hs⟩

theorem emitsOnly_of_none {β : Type} {op : Port β} (h : op.emitted = none) :
    Port.EmitsOnly r β op :=
  fun _ he => nomatch h.symm.trans he

theorem uses_emitOnce (clock : Clock py) (sink : SinkId) (r : ReceivingRecord) :
    (emitOnce clock sink r).Uses (Port.EmitsOnly r) := by
  apply Uses.bind (.perform (emitsOnly_of_none rfl))
  intro emitted
  split
  case isTrue => exact .pure r
  case isFalse =>
    have hmark : (do perform (.markEmitted clock.markedAt r.receivingId); .pure r :
        ServiceM ReceivingRecord).Uses (Port.EmitsOnly r) :=
      .bind (.perform (emitsOnly_of_none rfl)) fun _ => .pure r
    split
    case isTrue  => exact .bind (.perform (emitsOnly_of_none rfl)) fun _ => hmark
    case isFalse => exact .bind (.perform fun _ he => (Option.some.inj he).symm) fun _ => hmark

theorem uses_miss : s.miss.Uses (Port.EmitsOnly s.noMatch) :=
  .bind (.perform (emitsOnly_of_none rfl)) fun _ => uses_emitOnce ..

-- Where a record is emitted as received, it is the one of the row the barcode resolves to.
theorem Emits.received (h : s.Emits w r) (hr : r.matchStatus = .received) :
    ∃ row id, s.target w.db = some row ∧ row.inventoryId = some id ∧ r = s.received row id := by
  obtain ⟨w₁, w₂, k, hs⟩ := emits_iff.mp h
  have honly {r' : ReceivingRecord}
      (hu : (s.afterRead (w.db.unclaimedForPo s.poNumber)).Uses (Port.EmitsOnly r')) : r = r' :=
    (hs.uses hu).of_call r rfl
  cases ht : s.target w.db
  case some row =>
    cases hid : row.inventoryId
    case none =>
      have hm := afterRead_of_null ht hid
      cases steps_throw_iff.mp (hm ▸ hs)
      contradiction
    case some id =>
      refine ⟨row, id, rfl, hid, honly ?_⟩
      rw [afterRead_of_some ht hid]
      exact .bind (.perform (emitsOnly_of_none rfl)) fun _ => uses_emitOnce ..
  case none =>
    have hmiss : r = s.noMatch := by
      apply honly
      by_cases hb : s.serial = ""
      case pos => exact afterRead_of_blank ht hb ▸ uses_miss
      case neg =>
        rw [afterRead_of_none ht hb]
        refine .bind (.perform (emitsOnly_of_none rfl)) fun dup => ?_
        cases dup
        case none     => exact uses_miss
        case some dup => exact .pure _
    cases hmiss
    cases hr

-- A scan that nothing disturbs emits the record of an unmarked receiving_id.
theorem emits_of_target (ht : s.target w.db = some row) (hid : row.inventoryId = some id)
    (hn : (s.claimed row id w.db).wasEmitted (s.received row id).receivingId = false) :
    s.Emits w (s.received row id) := by
  let w₁ : World := { w with db := s.claimed row id w.db }
  have hc : World.handle Unit (.claimAndSave (some id) s.clock.claimedAt s.clock.savedAt
      (s.received row id)) w = (.ok (), w₁) :=
    rfl
  have hw : World.handle Bool (.wasEmitted (s.received row id).receivingId) w₁ =
      (.ok false, w₁) := by
    simp [World.handle, World.query, w₁, hn]
  rw [emits_iff, afterRead_of_some ht hid]
  have hclaim : Ui.Shared World.env Unit _ w (.ok ()) w₁ := ⟨w, World.env_ok_iff.mpr hc⟩
  have hmark : Ui.Shared World.env Bool _ w₁ (.ok false) w₁ := ⟨w₁, World.env_ok_iff.mpr hw⟩
  exact ⟨w, w₁, _, .call hclaim (.call hmark (.refl _ _))⟩

-- ### The hand-over

theorem isValid_iff (item : ReadyItem) :
    item.isValid ↔ orEmpty item.itemId ≠ "" ∧ orEmpty item.poNumber ≠ "" ∧
      orEmpty item.inventoryId ≠ "" ∧ orEmpty item.model ≠ "" ∧ orEmpty item.serial ≠ "" := by
  simp [ReadyItem.isValid]

-- For every way into a match in the UI, every way in which the scan comes to emit, and every answer
-- of the board.
theorem handsOver_iff {isDigit : Char → Bool} {es : List UiEvent} {ui : Ui} {cols : Columns}
    {item : ApiItem} {pages : List Page} {i : Nat} {ready : ReadyItem}
    (hui : Trace (Ui.Step py isDigit) .init es ui)
    (hm : .runMatch s.barcode s.serial s.poNumber ∈ ui.threads) (he : s.Emits w r)
    (hr : r.matchStatus = .received) (hc : cols.ids.Nodup) (hb : Echoes cols (emittedItem r) item)
    (hi : (readItems pages).bind (·[i]?) = some item)
    (hp : (pollReady cols pages).bind (·[i]?) = some ready) :
    HandsOver r ready ↔
      s.serial ≠ "" ∧ ∀ row, s.target w.db = some row → row.inventoryId ≠ some "" := by
  have hloaded : ui.Loaded :=
    hui.invariant (fun hs h => h.step (Ui.moves_of_next hs.2)) .init
  have hpo : s.poNumber ≠ "" := hloaded.threads _ hm
  obtain ⟨row, id, ht, hid, rfl⟩ := he.received hr
  have hmodel : row.modelNumber ≠ "" :=
    ne_empty_of_exactModelMatch (exactModelMatch_of_resolveRow ht)
  have hready : ready = parseItem cols item := by simpa [pollReady_bind, hi] using hp.symm
  rw [parseItem_of_echoes hc hb] at hready
  subst hready
  have hvalid := isValid_iff {
    itemId      := some item.id
    poNumber    := some s.poNumber
    inventoryId := some id
    model       := some row.modelNumber
    serial      := some s.serial
  }
  constructor
  case mp =>
    intro h
    have ⟨_, _, hinv, _, hserial⟩ := hvalid.mp h.valid
    refine ⟨hserial, fun row' ht' hid' => hinv ?_⟩
    cases ht.symm.trans ht'
    exact congrArg orEmpty (hid.symm.trans hid')
  case mpr =>
    intro ⟨hserial, hrow⟩
    have hinv : id ≠ "" := fun h => hrow row ht (h ▸ hid)
    exact ⟨rfl, rfl, rfl, rfl, hvalid.mpr ⟨hb.id, hpo, hinv, hmodel, hserial⟩⟩

-- ### Manual entry

-- What a board that echoes has for an item.
def echo (cols : Columns) (itemId : String) (created : CreatedItem) : ApiItem :=
  BoardItem.toApi cols {
    itemId
    name        := created.itemName
    inventoryId := some created.inventoryId
    model       := some created.model
    serial      := some created.serial
    status      := created.statusLabel
    group       := .ready
  }

theorem echoes_echo {cols : Columns} (hc : cols.ids.Nodup) {itemId : String} (hid : itemId ≠ "")
    (created : CreatedItem) : Echoes cols created (echo cols itemId created) := by
  have hv := columnValues_eq hc created
  obtain ⟨⟨him, his, hit⟩, ⟨hms, hmt⟩, hst⟩ := Columns.nodup_ids_iff.mp hc
  constructor
  case id   => exact hid
  case name => rfl
  case column =>
    intro col text hg
    simp only [hv, Dict.get?_cons, Dict.get?_nil] at hg
    split_ifs at hg with hi hm hs ht
    all_goals simp_all [echo, BoardItem.toApi]
  case text =>
    intro col text hg cv hcv he
    simp only [hv, Dict.get?_cons, Dict.get?_nil] at hg
    simp only [echo, BoardItem.toApi, List.mem_cons, List.not_mem_nil, or_false] at hcv
    rcases hcv with rfl | rfl | rfl | rfl
    all_goals
      subst he
      simp_all [Ne.symm]

def sampleColumns : Columns := ⟨"inventory_id", "model", "serial", "status"⟩

-- A unit is entered by hand.
def manualEntry (serial : String) : List (Ui → UiEvent) := [
  fun _ => .poSubmit "7",
  fun _ => .populated 0 (.ok ()),
  fun _ => .fire 0,
  fun _ => .showManual,
  fun _ => .manualSubmit "A" serial
]

def entered (serial : String) : Scan .ascii := ⟨"A", "7", serial, 0, .sample⟩

theorem runs_manualEntry (serial : String)
    (h : (Ui.play (manualEntry serial) .init).map (·.threads) = some [.runMatch "A" serial "7"]) :
    ∃ es ui, Ui.Runs .init es ui ∧ Thread.runMatch "A" serial "7" ∈ ui.threads := by
  have ⟨es, ui, ht, hs⟩ := Ui.runs_of_play .init (manualEntry serial)
    (by simp [manualEntry]) h
  exact ⟨es, ui, ht, by simp [hs]⟩

theorem emits_entered (serial : String) (w : World)
    (h : ((entered serial).target w.db).map (fun row => (row.inventoryId,
      ((entered serial).claimed row "1" w.db).wasEmitted
        ((entered serial).received row "1").receivingId)) = some (some "1", false)) :
    ∃ row, (entered serial).target w.db = some row ∧ row.inventoryId = some "1" ∧
      (entered serial).Emits w ((entered serial).received row "1") := by
  have ⟨row, ht, hf⟩ := Option.map_eq_some_iff.mp h
  have ⟨hid, hn⟩ := Prod.mk.inj hf
  exact ⟨row, ht, hid, emits_of_target ht hid hn⟩

def sampleWorld : World := .loaded [.unit "1" "7" "A"]

theorem handsOver_sample : ∃ r : ReceivingRecord, r.serial = "S1" ∧
    HandsOver r (parseItem sampleColumns (echo sampleColumns "9" (emittedItem r))) := by
  obtain ⟨es, ui, hui, hm⟩ := runs_manualEntry "S1" (by decide +kernel)
  obtain ⟨row, ht, hid, he⟩ := emits_entered "S1" sampleWorld (by decide +kernel)
  have hc : sampleColumns.ids.Nodup := by decide
  let r := (entered "S1").received row "1"
  let item := echo sampleColumns "9" (emittedItem r)
  have hb : Echoes sampleColumns (emittedItem r) item := echoes_echo hc (by decide) _
  have hi : (readItems [⟨[item], none⟩]).bind (·[0]?) = some item := rfl
  have hp : (pollReady sampleColumns [⟨[item], none⟩]).bind (·[0]?) =
      some (parseItem sampleColumns item) :=
    rfl
  refine ⟨r, rfl, (handsOver_iff hui hm he rfl hc hb hi hp).mpr ⟨by decide, fun row' ht' => ?_⟩⟩
  cases ht.symm.trans ht'
  simp [hid]

-- Where the serial is left blank, the UI accepts the entry, and the robot does not take up the
-- item.
theorem not_handsOver :
    ¬∀ (es : List UiEvent) (ui : Ui) (s : Scan .ascii) (w : World) (r : ReceivingRecord)
      (cols : Columns) (item : ApiItem) (pages : List Page) (i : Nat) (ready : ReadyItem),
      Trace (Ui.Step .ascii Char.isDigit) .init es ui →
      .runMatch s.barcode s.serial s.poNumber ∈ ui.threads → s.Emits w r →
      r.matchStatus = .received → cols.ids.Nodup → Echoes cols (emittedItem r) item →
      (readItems pages).bind (·[i]?) = some item →
      (pollReady cols pages).bind (·[i]?) = some ready → HandsOver r ready := by
  intro h
  obtain ⟨es, ui, hui, hm⟩ := runs_manualEntry "" (by decide +kernel)
  obtain ⟨row, ht, hid, he⟩ := emits_entered "" sampleWorld (by decide +kernel)
  have hc : sampleColumns.ids.Nodup := by decide
  have hb := echoes_echo hc (show "9" ≠ "" by decide)
    (emittedItem ((entered "").received row "1"))
  have hh := h es ui (entered "") sampleWorld _ sampleColumns _ [⟨[_], none⟩] 0 _ hui hm he rfl hc
    hb rfl rfl
  have hvalid := hh.valid
  rw [parseItem_of_echoes hc hb] at hvalid
  exact ((isValid_iff _).mp hvalid).2.2.2.2 rfl

end Scan
end ReceivingApp
