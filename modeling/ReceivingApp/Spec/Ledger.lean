import Mathlib.Data.Set.Insert

namespace ReceivingApp

-- The unit with this serial came in on a purchase order and was booked on an inventory_id.
@[ext]
structure Receipt where
  receivingId   : String
  purchaseOrder : String
  inventoryId   : String
  serial        : String

-- What the two tables say together: the inventory_ids in the catalog, those of them that are
-- claimed, and the receipts.
@[ext]
structure Ledger where
  listed   : Set String
  claimed  : Set String
  receipts : Set Receipt

namespace Ledger

variable {l : Ledger} {c c' : Receipt} {rid id : String}

-- ### Operations

-- Whatever was stored under a receiving_id is gone once something else is saved there.
def void (rid : String) (l : Ledger) : Ledger := { l with
  receipts := { x ∈ l.receipts | x.receivingId ≠ rid }
}

def book (c : Receipt) (l : Ledger) : Ledger := { l with
  claimed  := l.claimed ∪ (l.listed ∩ {c.inventoryId})
  receipts := insert c (l.void c.receivingId).receipts
}

-- The catalog is extended, or replaced without its claims.
def list (ids : Set String) (l : Ledger) : Ledger := { l with
  listed := l.listed ∪ ids
}

def relist (ids : Set String) (l : Ledger) : Ledger := { l with
  listed  := ids
  claimed := ∅
}

theorem mem_claimed_book_iff :
    id ∈ (l.book c).claimed ↔ id ∈ l.claimed ∨ (id ∈ l.listed ∧ id = c.inventoryId) :=
  Iff.rfl

-- ### Fresh receiving_ids

-- No receipt is stored under the receiving_id.
def Fresh (l : Ledger) (rid : String) : Prop :=
  ∀ c ∈ l.receipts, c.receivingId ≠ rid

theorem void_of_fresh (h : l.Fresh rid) : l.void rid = l :=
  Ledger.ext rfl rfl <| Set.ext fun c => ⟨And.left, fun hc => ⟨hc, h c hc⟩⟩

theorem receipts_book_of_fresh (h : l.Fresh c.receivingId) :
    (l.book c).receipts = insert c l.receipts := by
  rw [book, void_of_fresh h]

-- ### Invariants

-- Every receipt is for a unit of the catalog.
def Backed (l : Ledger) : Prop :=
  ∀ c ∈ l.receipts, c.inventoryId ∈ l.listed

namespace Backed

theorem void (h : l.Backed) : (l.void rid).Backed :=
  fun c hc => h c hc.1

theorem book (h : l.Backed) (hc : c.inventoryId ∈ l.listed) : (l.book c).Backed := by
  rintro x (rfl | hx)
  · exact hc
  · exact h x hx.1

theorem list {ids : Set String} (h : l.Backed) : (l.list ids).Backed :=
  fun c hc => .inl (h c hc)

end Backed

-- Claims and receipts correspond: every receipt has its claim, and every claim has one receipt.
structure Balanced (l : Ledger) : Prop where
  claimed : ∀ c ∈ l.receipts, c.inventoryId ∈ l.claimed
  receipt : ∀ id ∈ l.claimed, ∃! c, c ∈ l.receipts ∧ c.inventoryId = id

namespace Balanced

theorem claimed_iff (h : l.Balanced) :
    id ∈ l.claimed ↔ ∃! c, c ∈ l.receipts ∧ c.inventoryId = id :=
  ⟨h.receipt id, fun ⟨c, ⟨hc, hid⟩, _⟩ => hid ▸ h.claimed c hc⟩

theorem list {ids : Set String} (h : l.Balanced) : (l.list ids).Balanced :=
  ⟨h.claimed, h.receipt⟩

-- A booking keeps the balance if nobody has claimed the unit yet and nothing is overwritten.
theorem book (h : l.Balanced) (hl : c.inventoryId ∈ l.listed) (hn : c.inventoryId ∉ l.claimed)
    (hf : l.Fresh c.receivingId) : (l.book c).Balanced where
  claimed := by
    intro x hx
    rw [receipts_book_of_fresh hf] at hx
    rcases hx with rfl | hx
    · exact .inr ⟨hl, rfl⟩
    · exact .inl (h.claimed x hx)
  receipt := by
    intro id hid
    rw [receipts_book_of_fresh hf]
    by_cases he : id = c.inventoryId
    case pos =>
      refine ⟨c, ⟨.inl rfl, he.symm⟩, ?_⟩
      rintro x ⟨rfl | hx, hi⟩
      · rfl
      · exact absurd (h.claimed x hx) ((hi.trans he) ▸ hn)
    case neg =>
      have hc : id ∈ l.claimed := (mem_claimed_book_iff.mp hid).resolve_right fun h => he h.2
      have ⟨x, ⟨hx, hi⟩, hu⟩ := h.receipt id hc
      refine ⟨x, ⟨.inr hx, hi⟩, ?_⟩
      rintro y ⟨rfl | hy, hi'⟩
      · exact absurd hi'.symm he
      · exact hu y ⟨hy, hi'⟩

end Balanced

-- ### Slots of a serial

-- The unit is claimed, and the serial was received as it.
def Holds (l : Ledger) (po serial id : String) : Prop :=
  id ∈ l.claimed ∧ ∃ c ∈ l.receipts, c.inventoryId = id ∧ c.purchaseOrder = po ∧ c.serial = serial

theorem holds_book (hl : c.inventoryId ∈ l.listed) :
    (l.book c).Holds c.purchaseOrder c.serial c.inventoryId :=
  ⟨.inr ⟨hl, rfl⟩, c, .inl rfl, rfl, rfl, rfl⟩

-- The booking of an open unit is the only one of its serial if there was none under another
-- receiving_id.
theorem existsUnique_holds_book_iff (hl : c.inventoryId ∈ l.listed)
    (hn : c.inventoryId ∉ l.claimed) :
    (∃! id, (l.book c).Holds c.purchaseOrder c.serial id) ↔
      ∀ x ∈ l.receipts, x.inventoryId ∈ l.claimed → x.purchaseOrder = c.purchaseOrder →
        x.serial = c.serial → x.receivingId = c.receivingId := by
  constructor
  case mp =>
    intro hu x hx hc hpo hserial
    by_contra hne
    have hh : (l.book c).Holds c.purchaseOrder c.serial x.inventoryId :=
      ⟨.inl hc, x, .inr ⟨hx, hne⟩, rfl, hpo, hserial⟩
    exact hn (hu.unique hh (holds_book hl) ▸ hc)
  case mpr =>
    intro h
    refine ⟨c.inventoryId, holds_book hl, ?_⟩
    rintro _ ⟨hc, x, rfl | ⟨hx, hne⟩, rfl, hpo, hserial⟩
    · rfl
    · rcases mem_claimed_book_iff.mp hc with hc | ⟨_, he⟩
      · exact absurd (h x hx hc hpo hserial) hne
      · exact he

-- A second unit that is booked for the serial makes two slots.
theorem not_existsUnique_holds_book {c' : Receipt} (hl : c.inventoryId ∈ l.listed)
    (hl' : c'.inventoryId ∈ l.listed) (hid : c'.inventoryId ≠ c.inventoryId)
    (hrid : c.receivingId ≠ c'.receivingId) (hpo : c'.purchaseOrder = c.purchaseOrder)
    (hserial : c'.serial = c.serial) :
    ¬∃! id, ((l.book c).book c').Holds c.purchaseOrder c.serial id := by
  intro hu
  have h : ((l.book c).book c').Holds c.purchaseOrder c.serial c.inventoryId :=
    ⟨.inl (.inr ⟨hl, rfl⟩), c, .inr ⟨.inl rfl, hrid⟩, rfl, rfl, rfl⟩
  have h' := holds_book (l := l.book c) hl'
  rw [hpo, hserial] at h'
  exact hid (hu.unique h' h)

end Ledger
end ReceivingApp
