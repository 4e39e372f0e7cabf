import ReceivingApp.Services.Populate
import ReceivingApp.Theorems.Runs

open Interaction Relational

namespace ReceivingApp

-- ### Rows

-- A row of receiving_items keeps its creation time, and its mark once it has one.
structure ItemRow.Keeps (row row' : ItemRow) : Prop where
  createdAt : row'.createdAt = row.createdAt
  emitted   : row.emitted → row'.emitted

-- A row of po_inventory keeps its creation time, and the time of its claim once it has one.
structure PoRow.Keeps (row row' : PoRow) : Prop where
  createdAt : row'.createdAt = row.createdAt
  claimedAt : ∀ t, row.claimedAt = some t → row'.claimedAt = some t

namespace ItemRow.Keeps

variable {row row₁ row₂ : ItemRow}

theorem refl (row : ItemRow) : row.Keeps row :=
  ⟨rfl, id⟩

theorem trans (h₁ : row.Keeps row₁) (h₂ : row₁.Keeps row₂) : row.Keeps row₂ :=
  ⟨h₂.createdAt.trans h₁.createdAt, h₂.emitted ∘ h₁.emitted⟩

end ItemRow.Keeps

namespace PoRow.Keeps

variable {row row₁ row₂ : PoRow}

theorem refl (row : PoRow) : row.Keeps row :=
  ⟨rfl, fun _ h => h⟩

theorem trans (h₁ : row.Keeps row₁) (h₂ : row₁.Keeps row₂) : row.Keeps row₂ :=
  ⟨h₂.createdAt.trans h₁.createdAt, fun t h => h₂.claimedAt t (h₁.claimedAt t h)⟩

end PoRow.Keeps

-- ### Operations

-- No row goes or loses what is written once.
structure WriteOnce (db db' : Db) : Prop where
  items : db.receivingItems.Evolves ItemRow.Keeps db'.receivingItems
  units : db.poInventory.Evolves PoRow.Keeps db'.poInventory

namespace WriteOnce

variable {db db' db₁ : Db} {now id : String} {inventoryId : Option String} {r : ReceivingRecord}

theorem refl (db : Db) : WriteOnce db db :=
  ⟨.refl .refl _, .refl .refl _⟩

theorem trans (h₁ : WriteOnce db db₁) (h₂ : WriteOnce db₁ db') : WriteOnce db db' :=
  ⟨h₁.items.trans .trans h₂.items, h₁.units.trans .trans h₂.units⟩

theorem saveRecord : WriteOnce db (db.saveRecord now r) :=
  ⟨.upsert .refl fun _ => ⟨rfl, id⟩, .refl .refl _⟩

theorem setEmitted : WriteOnce db (db.setEmitted now id) :=
  ⟨.modify (ItemRow.key_marked now) .refl fun _ _ => ⟨rfl, fun _ => rfl⟩, .refl .refl _⟩

-- A claim is written where there was none.
theorem claim : WriteOnce db (db.claim inventoryId now) where
  items := .refl .refl _
  units := by
    refine Table.Evolves.modify (f := fun row : PoRow => { row with claimedAt := some now })
      (fun _ => rfl) PoRow.Keeps.refl ?_
    intro row hp
    have hn : row.claimedAt = none := by
      simp only [Db.isOpenSlot, decide_eq_true_eq] at hp
      exact hp.2.2
    exact ⟨rfl, fun t ht => by cases hn.symm.trans ht⟩

theorem claimAndSave {claimedAt : String} :
    WriteOnce db (db.claimAndSave inventoryId claimedAt now r) :=
  claim.trans saveRecord

theorem insertItem {op : String} {item : LineItem} {t t' : Table PoRow.inventoryId}
    (h : Db.insertItem op now t item = .ok t') : t.Evolves PoRow.Keeps t' := by
  have ⟨row, _, h⟩ := Except.bind_eq_ok.mp h
  cases h
  exact .upsert .refl fun old => ⟨rfl, fun _ ht => ht⟩

theorem insertItems {op : String} {items : List LineItem} {t t' : Table PoRow.inventoryId}
    (h : items.foldlM (Db.insertItem op now) t = .ok t') : t.Evolves PoRow.Keeps t' := by
  induction items generalizing t
  case nil =>
    cases h
    exact .refl .refl _
  case cons item items ih =>
    rw [List.foldlM_cons] at h
    have ⟨t₁, hi, h⟩ := Except.bind_eq_ok.mp h
    exact (insertItem hi).trans .trans (ih h)

theorem upsertItems {items : List LineItem} (h : db.upsertItems now items = .ok db') :
    WriteOnce db db' := by
  have ⟨t, hf, h⟩ := Except.bind_eq_ok.mp h
  cases h
  exact ⟨.refl .refl _, insertItems hf⟩

theorem markEmitted (h : db.markEmitted now id = .ok db') : WriteOnce db db' :=
  Db.markEmitted_eq_ok h ▸ setEmitted

end WriteOnce

-- ### Calls

-- The calls that rebuild po_inventory.
def Port.Rebuilds : ∀ {β : Type}, Port β → Prop
  | _, .clearPoItems | _, .replacePoItems _ _ => True
  | _, _ => False

section

variable {β : Type} {op : Port β} {e : Except PyExc β} {w w' : World}

theorem writeOnce_transact {x : Except PyExc Db} (h : ∀ db, x = .ok db → WriteOnce w.db db) :
    WriteOnce w.db (w.transact x).2.db := by
  cases x
  case ok db => exact h db rfl
  case error => exact .refl _

-- A call that does not rebuild po_inventory writes nothing twice, whether it returns or raises.
theorem writeOnce_of_env (hop : ¬op.Rebuilds) (h : World.env β op w e w') :
    WriteOnce w.db w'.db := by
  cases e
  case error => exact World.env_error h ▸ .refl _
  case ok b =>
    have he : w' = (World.handle β op w).2 := (congrArg Prod.snd (World.env_ok_iff.mp h)).symm
    subst he
    cases op
    case clearPoItems | replacePoItems => exact absurd trivial hop
    case upsertItems  => exact writeOnce_transact fun _ => .upsertItems
    case markEmitted  => exact writeOnce_transact fun _ => .markEmitted
    case saveRecord   => exact .saveRecord
    case claim        => exact .claim
    case claimAndSave => exact .claimAndSave
    case saveBarcodeMapping => exact ⟨.refl .refl _, .refl .refl _⟩
    case emit             => exact World.emit_db ▸ .refl _
    case surfaceAttention => exact World.surfaceAttention_db ▸ .refl _
    all_goals exact .refl _

-- The calls that do rebuild it leave receiving_items alone.
theorem receivingItems_of_rebuilds (hop : op.Rebuilds) (h : World.env β op w e w') :
    w'.db.receivingItems = w.db.receivingItems := by
  cases e
  case error => rw [World.env_error h]
  case ok b =>
    have he : w' = (World.handle β op w).2 := (congrArg Prod.snd (World.env_ok_iff.mp h)).symm
    subst he
    cases op
    case clearPoItems => rfl
    case replacePoItems now items =>
      show (w.transact (w.db.replacePoItems now items)).2.db.receivingItems = _
      cases hx : w.db.replacePoItems now items
      case ok    => exact (Db.replacePoItems_eq_ok hx).2
      case error => rfl
    all_goals exact hop.elim

-- Wherever a program is cut that makes no other calls, it has written nothing twice.
theorem writeOnce_of_steps {α : Type} {p q : ServiceM α}
    (hu : Program.Uses (fun _ op => ¬op.Rebuilds) p) (hs : Program.Steps World.env w p w' q) :
    WriteOnce w.db w'.db :=
  hs.invariant (I := fun w' => WriteOnce w.db w'.db)
    (fun hop he h => h.trans (writeOnce_of_env hop he)) hu (.refl _)

end

-- ### Runs

-- The operations that the repository is used with, and `populate_po`, which is made of them.
inductive StoreCall
  | upsertItems (now : String) (items : List LineItem)
  | saveRecord (now : String) (record : ReceivingRecord)
  | claim (inventoryId : Option String) (claimedAt : String)
  | claimAndSave (inventoryId : Option String) (claimedAt now : String) (record : ReceivingRecord)
  | markEmitted (now receivingId : String)
  | populatePo (fetchOrder : String → Except PyExc (List LineItem)) (now poNumber : String)

namespace StoreCall

def program : StoreCall → ServiceM Unit
  | upsertItems now items             => .perform (.upsertItems now items)
  | saveRecord now record             => .perform (.saveRecord now record)
  | claim id claimedAt                => .perform (.claim id claimedAt)
  | claimAndSave id claimedAt now rec => .perform (.claimAndSave id claimedAt now rec)
  | markEmitted now id                => .perform (.markEmitted now id)
  | populatePo fetchOrder now po      => ReceivingApp.populatePo fetchOrder now po

-- An operation may be stopped anywhere, by a fault or by a crash.
def Step (w : World) (c : StoreCall) (w' : World) : Prop :=
  ∃ q, Program.Steps World.env w c.program w' q

theorem uses_program (c : StoreCall) : c.program.Uses (fun _ op => ¬op.Rebuilds) := by
  cases c
  case populatePo =>
    refine .bind (.perform id) fun existing => ?_
    split
    case isTrue  => exact .bind (.ofExcept _) fun _ => .perform id
    case isFalse => exact .pure _
  all_goals exact .perform id

end StoreCall

-- In every run of operations, some of which are stopped midway, the facts that are written once
-- stay. Only a call that rebuilds po_inventory can change those of the units, and it does not touch
-- receiving_items.
theorem writeOnce :
    (∀ {w w' : World} {cs : List StoreCall}, Trace StoreCall.Step w cs w' →
      WriteOnce w.db w'.db) ∧
    ∀ {β : Type} {op : Port β} {e : Except PyExc β} {w w' : World}, World.env β op w e w' →
      (¬w.db.poInventory.Evolves PoRow.Keeps w'.db.poInventory → op.Rebuilds) ∧
      (op.Rebuilds → w'.db.receivingItems = w.db.receivingItems) := by
  refine ⟨fun {w w' cs} h => ?run, fun {β op e w w'} h => ⟨fun hn => ?only, ?kept⟩⟩
  case run =>
    refine h.invariant (I := fun w' => WriteOnce w.db w'.db) (fun hs hw => ?_) (.refl _)
    have ⟨q, hs⟩ := hs
    exact hw.trans (writeOnce_of_steps (StoreCall.uses_program _) hs)
  case only =>
    by_contra hop
    exact hn (writeOnce_of_env hop h).units
  case kept => exact fun hop => receivingItems_of_rebuilds hop h

def StoreCall.after (c : StoreCall) (w : World) : World :=
  (c.program.run World.handle w).2

theorem StoreCall.step_after (c : StoreCall) (w : World) : Step w c (c.after w) :=
  ⟨_, Program.steps_run (fun _ op s => .done op s) _ _⟩

-- A claimed unit is loaded again, and then the table is cleared.
theorem writeOnce_sample :
    let claimed := (StoreCall.claim (some "1") sampleTime).after .oneUnit
    let loaded := (StoreCall.upsertItems "later" [.unit "1" "P" "A"]).after claimed
    WriteOnce claimed.db loaded.db ∧
      (loaded.write loaded.db.clearPoItems).2.db.receivingItems = loaded.db.receivingItems := by
  intro claimed loaded
  have hc : World.env Unit .clearPoItems loaded (.ok ()) (loaded.write loaded.db.clearPoItems).2 :=
    World.env_ok_iff.mpr rfl
  exact ⟨writeOnce.1 (.single (StoreCall.step_after _ _)), (writeOnce.2 hc).2 trivial⟩

end ReceivingApp
