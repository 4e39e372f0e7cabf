import ReceivingApp.Adapters.Site
import ReceivingApp.Lib.Knowledge
import ReceivingApp.Theorems.WriteOnce

open Interaction

namespace ReceivingApp

-- ### What the repository has of records

-- The receiving_id that a call marks as emitted.
def Port.marks? : ∀ {β : Type}, Port β → Option String
  | _, markEmitted _ id => some id
  | _, _                => none

theorem ItemRow.Carries.ticket_eq {row : ItemRow} {r : ReceivingRecord} (h : row.Carries r) :
    row.ticket = r.ticket := by
  simp [ItemRow.ticket, ReceivingRecord.ticket, h.receivingId, h.purchaseOrder, h.inventoryId,
    h.modelNumber, h.matchStatus, h.serial]

-- What stands in receiving_items after a call was there before it, or has been saved by it, and only
-- the mark of the call is new.
structure RecordsFrom (saved : List Ticket) (mark : Option String) (db db' : Db) : Prop where
  tickets : ∀ row ∈ db'.receivingItems.rows,
    row.ticket ∈ saved ∨ ∃ row' ∈ db.receivingItems.rows, row'.ticket = row.ticket
  marks   : ∀ id, db'.wasEmitted id → db.wasEmitted id ∨ mark = some id

namespace RecordsFrom

variable {saved : List Ticket} {mark : Option String} {db db' : Db}

theorem of_eq (h : db'.receivingItems = db.receivingItems) : RecordsFrom saved mark db db' where
  tickets row hr := .inr ⟨row, h ▸ hr, rfl⟩
  marks id hm    := .inl (by rwa [Db.wasEmitted, h] at hm)

theorem saveRecord (db₀ : Db) {now : String} {record : ReceivingRecord}
    (h : db₀.receivingItems = db.receivingItems) :
    RecordsFrom [record.ticket] mark db (db₀.saveRecord now record) where
  tickets row hr := (Db.mem_saveRecord hr).imp (fun hc => by simp [hc.ticket_eq])
    (fun hc => ⟨row, h ▸ hc.1, rfl⟩)
  marks id hm := by
    rw [Db.wasEmitted_saveRecord, Db.wasEmitted, h] at hm
    exact .inl hm

theorem setEmitted {now id : String} : RecordsFrom saved (some id) db (db.setEmitted now id) where
  tickets row hr := by
    have ⟨row', hr', he⟩ := Db.mem_setEmitted.mp hr
    refine .inr ⟨row', hr', ?_⟩
    rw [← he]
    split <;> rfl
  marks id' hm := by
    by_cases h : id' = id
    case pos => exact .inr (congrArg some h.symm)
    case neg => exact .inl (Db.wasEmitted_setEmitted_of_ne h ▸ hm)

end RecordsFrom

section

variable {β : Type} {op : Port β} {r : Except PyExc β} {w w' : World}

theorem recordsFrom_transact {saved : List Ticket} {mark : Option String} {x : Except PyExc Db}
    (h : ∀ db, x = .ok db → RecordsFrom saved mark w.db db) :
    RecordsFrom saved mark w.db (w.transact x).2.db := by
  cases x
  case ok db => exact h db rfl
  case error => exact .of_eq rfl

theorem recordsFrom_of_env (h : World.env β op w r w') :
    RecordsFrom (Shop.saves op r) op.marks? w.db w'.db := by
  cases r
  case error => exact World.env_error h ▸ .of_eq rfl
  case ok b =>
    have he : w' = (World.handle β op w).2 := (congrArg Prod.snd (World.env_ok_iff.mp h)).symm
    subst he
    cases op
    case saveRecord   => exact .saveRecord _ rfl
    case claimAndSave => exact .saveRecord (w.db.claim _ _) rfl
    case markEmitted  =>
      exact recordsFrom_transact fun _ hm => Db.markEmitted_eq_ok hm ▸ .setEmitted
    case upsertItems  =>
      exact recordsFrom_transact fun _ hu => .of_eq (Db.upsertItems_eq_ok hu).2
    case replacePoItems =>
      exact recordsFrom_transact fun _ hu => .of_eq (Db.replacePoItems_eq_ok hu).2
    case emit             => exact .of_eq (congrArg Db.receivingItems World.emit_db)
    case surfaceAttention => exact .of_eq (congrArg Db.receivingItems World.surfaceAttention_db)
    all_goals exact .of_eq rfl

-- The repository has no part in what the adapters have seen and the board has.
theorem sinkSide_of_env (hop : op.isSink = false) (h : World.env β op w r w') :
    w'.seen = w.seen ∧ w'.board = w.board := by
  have ht (x : Except PyExc Db) :
      (w.transact x).2.seen = w.seen ∧ (w.transact x).2.board = w.board := by
    cases x <;> exact ⟨rfl, rfl⟩
  cases r
  case error => exact World.env_error h ▸ ⟨rfl, rfl⟩
  case ok b =>
    have he : w' = (World.handle β op w).2 := (congrArg Prod.snd (World.env_ok_iff.mp h)).symm
    subst he
    cases op
    case emit | surfaceAttention => cases hop
    case upsertItems | markEmitted | replacePoItems => exact ht _
    all_goals exact ⟨rfl, rfl⟩

end

-- ### The items of records

theorem emittedItem_texts (r : ReceivingRecord) : (emittedItem r).texts = r.ticket.texts := by
  unfold emittedItem
  split <;> rfl

theorem emittedItem_group {r : ReceivingRecord} (h : (emittedItem r).group = .ready) :
    r.matchStatus = .received := by
  unfold emittedItem at h
  split at h
  case isTrue hr => exact hr
  case isFalse   => cases h

namespace Shop

variable {s s' : Shop} {β : Type} {op : Port β} {r : Except PyExc β} {created : Option CreatedItem}
variable {sink sink' : SinkId} {id id' : String} {item : CreatedItem}

-- ### What the steps of an adapter leave alone

section Remember

@[simp]
theorem remember_db : (s.remember sink id).world.db = s.world.db := by
  unfold remember
  split <;> rfl

@[simp]
theorem remember_board : (s.remember sink id).world.board = s.world.board := by
  unfold remember
  split <;> rfl

@[simp]
theorem remember_posts : (s.remember sink id).posts = s.posts := by
  unfold remember
  split <;> rfl

@[simp]
theorem remember_lost : (s.remember sink id).lost = s.lost := by
  unfold remember
  split <;> rfl

@[simp]
theorem remember_saved : (s.remember sink id).saved = s.saved := by
  unfold remember
  split <;> rfl

@[simp]
theorem mem_seen_remember : id' ∈ (s.remember sink id).world.seen sink' ↔
    id' ∈ s.world.seen sink' ∨ sink' = sink ∧ id' = id := by
  unfold remember
  by_cases hk : sink' = sink
  case pos =>
    subst hk
    split <;> simp_all [or_comm]
  case neg => split <;> simp [hk]

end Remember

@[simp]
theorem posted_create : (s.create sink id item).posted = s.posted ++ [id] := by
  simp [posted, create]

@[simp]
theorem posted_remember : (s.remember sink id).posted = s.posted := by
  simp [posted]

-- ### What a call of a scanner keeps

-- A record that was received has been saved with these texts.
def Receives (s : Shop) (u : UnitTexts) : Prop :=
  ∃ t ∈ s.saved, t.matchStatus = .received ∧ t.texts = u

-- An item that the robot is to find stands for a saved record.
def Backs (s : Shop) (item : CreatedItem) : Prop :=
  item.group = .ready → s.Receives item.texts

-- What an adapter knows has been posted, and so has what is marked. Items for the robot stand for
-- saved records.
structure Kept (s : Shop) : Prop where
  known  : ∀ k id, id ∈ s.world.seen k → id ∈ s.posted
  marked : ∀ id, s.world.db.wasEmitted id → id ∈ s.posted
  stored : ∀ row ∈ s.world.db.receivingItems.rows, row.ticket ∈ s.saved
  listed : ∀ item ∈ s.world.board, s.Backs item

-- The logs only grow.
structure Grows (s s' : Shop) : Prop where
  posted : s.posted ⊆ s'.posted
  saved  : s.saved ⊆ s'.saved
  board  : s.world.board ⊆ s'.world.board

theorem Grows.refl (s : Shop) : Grows s s :=
  ⟨fun _ h => h, fun _ h => h, fun _ h => h⟩

theorem Grows.trans {s₁ : Shop} (h₁ : Grows s s₁) (h₂ : Grows s₁ s') : Grows s s' where
  posted := List.Subset.trans h₁.posted h₂.posted
  saved  := List.Subset.trans h₁.saved h₂.saved
  board  := List.Subset.trans h₁.board h₂.board

theorem Grows.receives {u : UnitTexts} (h : Grows s s') : s.Receives u → s'.Receives u
  | ⟨t, ht, hr⟩ => ⟨t, h.saved ht, hr⟩

-- ### The steps of an adapter

theorem grows_create : Grows s (s.create sink id item) where
  posted := by simp
  saved  := List.Subset.refl _
  board  := List.subset_append_left _ _

theorem grows_remember : Grows s (s.remember sink id) where
  posted := by simp
  saved  := by simp
  board  := by simp

theorem Creates.grows {x : Except PyExc Unit} (h : Creates sink id item s x created s') :
    Grows s s' := by
  have hc : Grows s (s.create sink id item) := grows_create
  cases h
  case failed  => exact .refl s
  case created => exact hc
  case lost    => exact ⟨hc.posted, hc.saved, hc.board⟩

theorem Creates.db_eq {x : Except PyExc Unit} (h : Creates sink id item s x created s') :
    s'.world.db = s.world.db := by
  cases h <;> rfl

theorem Creates.saved_eq {x : Except PyExc Unit} (h : Creates sink id item s x created s') :
    s'.saved = s.saved := by
  cases h <;> rfl

theorem Creates.seen_eq {x : Except PyExc Unit} (h : Creates sink id item s x created s') :
    s'.world.seen = s.world.seen := by
  cases h <;> rfl

theorem Creates.mem_posted (h : Creates sink id item s (.ok ()) created s') : id ∈ s'.posted := by
  cases h
  simp

theorem Creates.repeats_eq {x : Except PyExc Unit} (h : Creates sink id item s x created s') :
    s'.repeats = s.repeats := by
  cases h <;> rfl

-- The items of the board after a request, of which one may be new.
theorem Creates.mem_board {x : Except PyExc Unit} (h : Creates sink id item s x created s')
    {other : CreatedItem} (ho : other ∈ s'.world.board) : other ∈ s.world.board ∨ other = item := by
  cases h
  case failed         => exact .inl ho
  case created | lost => simpa [create] using ho

theorem Kept.creates {x : Except PyExc Unit} (hk : s.Kept)
    (h : Creates sink id item s x created s') (hi : s.Backs item) : s'.Kept where
  known k id' hm := h.grows.posted (hk.known k id' (h.seen_eq ▸ hm))
  marked id' hm  := h.grows.posted (hk.marked id' (h.db_eq ▸ hm))
  stored row hr  := h.saved_eq ▸ hk.stored row (h.db_eq ▸ hr)
  listed other ho hg := by
    apply h.grows.receives
    rcases h.mem_board ho with ho | rfl
    · exact hk.listed other ho hg
    · exact hi hg

theorem Kept.remember (hk : s.Kept) (h : id ∈ s.posted) : (s.remember sink id).Kept where
  known k id' hm := by
    rw [posted_remember]
    rcases mem_seen_remember.mp hm with hm | ⟨-, rfl⟩
    · exact hk.known k id' hm
    · exact h
  marked id' hm := by
    rw [posted_remember]
    exact hk.marked id' (remember_db ▸ hm)
  stored row hr := by
    rw [remember_saved]
    exact hk.stored row (remember_db ▸ hr)
  listed item hi hg := grows_remember.receives (hk.listed item (remember_board ▸ hi) hg)

-- ### The calls of the repository

-- What a call needs to be true: what is marked has been posted.
def Permits (s : Shop) : ∀ β, Port β → Prop
  | _, .markEmitted _ id => id ∈ s.posted
  | _, _                 => True

-- A call to the repository changes the world as it does where nothing gets lost.
theorem Step.of_not_isSink (h : Step β op s r created s') (hop : op.isSink = false) :
    ∃ world, World.env β op s.world r world ∧ created = none ∧
      s' = { s with world, saved := s.saved ++ saves op r } := by
  cases op
  case emit | surfaceAttention => cases hop
  all_goals exact h

theorem Step.grows (h : Step β op s r created s') (hop : op.isSink = false) : Grows s s' := by
  obtain ⟨world, he, -, rfl⟩ := h.of_not_isSink hop
  exact ⟨List.Subset.refl _, List.subset_append_left _ _, by simp [(sinkSide_of_env hop he).2]⟩

theorem Kept.repository (hk : s.Kept) (h : Step β op s r created s') (hop : op.isSink = false)
    (ha : s.Permits β op) : s'.Kept := by
  obtain ⟨world, he, -, rfl⟩ := h.of_not_isSink hop
  have ⟨hseen, hboard⟩ := sinkSide_of_env hop he
  have hrec := recordsFrom_of_env he
  constructor
  case known => exact fun k id hm => hk.known k id (hseen ▸ hm)
  case marked =>
    intro id hm
    rcases hrec.marks id hm with hm | hm
    · exact hk.marked id hm
    · cases op
      case markEmitted =>
        cases hm
        exact ha
      all_goals cases hm
  case stored =>
    intro row hr
    rcases hrec.tickets row hr with ht | ⟨row', hr', he⟩
    · exact List.mem_append.mpr (.inr ht)
    · exact List.mem_append.mpr (.inl (he ▸ hk.stored row' hr'))
  case listed =>
    intro item hi hg
    have ⟨t, ht, hr⟩ := hk.listed item (hboard ▸ hi) hg
    exact ⟨t, List.mem_append.mpr (.inl ht), hr⟩

end Shop
end ReceivingApp
