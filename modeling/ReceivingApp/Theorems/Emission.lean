import ReceivingApp.Lib.Hoare
import ReceivingApp.Theorems.Runs

open Interaction Program

namespace ReceivingApp

variable {py : PyStd} {sink : SinkId}

-- ### What has been posted

-- The receiving_id a call to the sink is made for.
def Port.subject : ∀ {β : Type}, Port β → Option String
  | _, emit _ record             => some record.receivingId
  | _, surfaceAttention _ record => some record.receivingId
  | _, _                         => none

-- The world, and a log of the receiving_ids that items were created for on the board.
structure Posted where
  world : World
  ids   : List String

namespace Posted

-- The surroundings as they were. Each item a call adds to the board is logged.
def env : Program.Env Port PyExc Posted := fun β op p r p' =>
  World.env β op p.world r p'.world ∧
    p'.ids = p.ids ++
      (p'.world.board.drop p.world.board.length).filterMap (fun _ => op.subject)

-- What ties both guards to the log: the mark in the database, and the adapter's own set.
structure Once (sink : SinkId) (p : Posted) : Prop where
  nodup  : p.ids.Nodup
  seen   : ∀ id ∈ p.world.seen sink, id ∈ p.ids
  marked : ∀ id, p.world.db.wasEmitted id → id ∈ p.ids
  kept   : ∀ id ∈ p.ids, id ∈ p.world.seen sink ∨ p.world.db.wasEmitted id

end Posted

-- The calls that leave the board, the adapters and all marks alone.
def Port.IsQuiet : ∀ β, Port β → Prop
  | _, unclaimedForPo _ | _, findClaimedBySerial .. | _, wasEmitted _ | _, getPending => True
  | _, claimAndSave .. | _, saveRecord .. | _, upsertItems .. => True
  | _, _ => False

open Port (IsQuiet)

namespace Posted

variable {p p' : Posted}

theorem ids_of_board_eq {β : Type} {op : Port β} {r : Except PyExc β} (h : env β op p r p')
    (hb : p'.world.board = p.world.board) : p'.ids = p.ids := by
  rw [h.2, hb, List.drop_length, List.filterMap_nil, List.append_nil]

-- A call that raises has done nothing.
theorem eq_of_error {β : Type} {op : Port β} {e : PyExc} (h : env β op p (.error e) p') :
    p' = p := by
  obtain ⟨w, ids⟩ := p
  obtain ⟨w', ids'⟩ := p'
  have hw : w' = w := World.env_error h.1
  have hi : ids' = ids := ids_of_board_eq h (congrArg World.board hw)
  rw [hw, hi]

theorem eq_of_query {β : Type} {op : Port β} {a b : β}
    (hop : World.handle β op p.world = p.world.query b) (h : env β op p (.ok a) p') :
    b = a ∧ p.world = p'.world := by
  have hh := World.env_ok_iff.mp h.1
  rw [hop] at hh
  exact ⟨Except.ok.inj (congrArg Prod.fst hh), congrArg Prod.snd hh⟩

-- A call of these changes neither guard, whether it returns or raises.
theorem unchanged_of_quiet {β : Type} {op : Port β} {r : Except PyExc β} (hq : IsQuiet β op)
    (h : env β op p r p') :
    p'.ids = p.ids ∧ p'.world.seen = p.world.seen ∧
      ∀ id, p'.world.db.wasEmitted id = p.world.db.wasEmitted id := by
  have hw : p'.world.board = p.world.board ∧ p'.world.seen = p.world.seen ∧
      ∀ id, p'.world.db.wasEmitted id = p.world.db.wasEmitted id := by
    have he := h.1
    generalize p'.world = w' at he
    cases he
    case fault => exact ⟨rfl, rfl, fun _ => rfl⟩
    case done =>
      cases op
      case claimAndSave | saveRecord =>
        exact ⟨rfl, rfl, fun _ => Db.wasEmitted_saveRecord⟩
      case upsertItems now items =>
        simp only [World.handle]
        cases hu : p.world.db.upsertItems now items
        case error => exact ⟨rfl, rfl, fun _ => rfl⟩
        case ok db =>
          have hr := (Db.upsertItems_eq_ok hu).2
          exact ⟨rfl, rfl, fun _ => by simp only [World.transact, World.write, Db.wasEmitted, hr]⟩
      case unclaimedForPo | findClaimedBySerial | wasEmitted | getPending =>
        exact ⟨rfl, rfl, fun _ => rfl⟩
      all_goals exact hq.elim
  exact ⟨ids_of_board_eq h hw.1, hw.2⟩

namespace Once

theorem quiet {β : Type} {op : Port β} {r : Except PyExc β} (hp : p.Once sink)
    (h : env β op p r p') (hq : IsQuiet β op) : p'.Once sink := by
  have ⟨hi, hs, hm⟩ := unchanged_of_quiet hq h
  constructor
  case nodup  => exact hi ▸ hp.nodup
  case seen   => exact hs ▸ hi ▸ hp.seen
  case marked => exact fun id hid => hi ▸ hp.marked id (hm id ▸ hid)
  case kept   => exact fun id hid => hs ▸ hm id ▸ hp.kept id (hi ▸ hid)

-- A post for an unmarked receiving_id is the first one for it.
theorem post {id : String} (item : CreatedItem) {ids : List String} {w : World}
    (hp : Once sink ⟨w, ids⟩) (hn : w.db.wasEmitted id = false) :
    Once sink ⟨w.post sink id item, ids ++
      ((w.post sink id item).board.drop w.board.length).filterMap (fun _ => some id)⟩ ∧
      id ∈ (w.post sink id item).seen sink := by
  by_cases hs : id ∈ w.seen sink
  case pos =>
    simp only [World.post, if_pos hs, List.drop_length, List.filterMap_nil, List.append_nil]
    exact ⟨hp, hs⟩
  case neg =>
    have hi : id ∉ ids := fun hi => (hp.kept id hi).elim hs (by simp [hn])
    simp only [World.post, if_neg hs, List.drop_left, List.filterMap_cons, List.filterMap_nil]
    refine ⟨⟨?nodup, ?seen, ?marked, ?kept⟩, by simp⟩
    case nodup  =>
      refine List.nodup_append.mpr ⟨hp.nodup, by simp, fun id' h' id'' h'' he => hi ?_⟩
      exact List.mem_singleton.mp h'' ▸ he ▸ h'
    case seen   =>
      intro id' hid'
      simp only [Function.update_self, List.mem_cons] at hid'
      exact List.mem_append.mpr <| hid'.symm.imp (hp.seen id') (by simp)
    case marked => exact fun id' hm => List.mem_append.mpr (.inl (hp.marked id' hm))
    case kept   =>
      intro id' hid'
      simp only [Function.update_self, List.mem_cons]
      rcases List.mem_append.mp hid' with h | h
      · exact (hp.kept id' h).imp .inr (fun h => h)
      · exact .inl (.inl (by simpa using h))

-- What has been posted may be marked.
theorem mark {now id : String} {ids : List String} {w : World} (hp : Once sink ⟨w, ids⟩)
    (hi : id ∈ ids) : Once sink ⟨{ w with db := w.db.setEmitted now id }, ids⟩ := by
  have hm {id' : String} : (w.db.setEmitted now id).wasEmitted id' → id' ∈ ids := by
    intro h
    by_cases he : id' = id
    case pos => exact he ▸ hi
    case neg => exact hp.marked id' (Db.wasEmitted_setEmitted_of_ne he ▸ h)
  exact ⟨hp.nodup, hp.seen, fun _ => hm, fun id' h => (hp.kept id' h).imp (fun h => h)
    Db.wasEmitted_setEmitted_of_wasEmitted⟩

end Once

-- ### What a run keeps

-- The marks are those of `db`, save for the one of `id`.
def MarksBut (id : String) (db : Db) (p : Posted) : Prop :=
  ∀ id' ≠ id, p.world.db.wasEmitted id' = db.wasEmitted id'

-- A post for an unmarked receiving_id. When it has returned, the adapter has seen the id.
theorem post_wp {op : Port Unit} {id : String} {item : CreatedItem}
    (hop : ∀ w, World.handle Unit op w = (.ok (), w.post sink id item))
    (hs : op.subject = some id) (hp : p.Once sink) (hn : p.world.db.wasEmitted id = false) :
    (perform op : ServiceM Unit).wp env (Once sink)
      (fun _ p' => id ∈ p'.world.seen sink ∧ p'.world.db = p.world.db)
      (fun _ p' => p'.world.db = p.world.db) p := by
  have ⟨w, ids⟩ := p
  apply wp.perform hp
  case hok =>
    intro _ ⟨w', ids'⟩ ⟨he, hi⟩
    have hw : w' = w.post sink id item :=
      (congrArg Prod.snd ((World.env_ok_iff.mp he).symm.trans (hop w)))
    simp only [hs] at hi
    rw [hw] at hi ⊢
    rw [hi]
    have ⟨hp', hseen⟩ := hp.post item hn
    exact ⟨hp', hseen, World.post_db⟩
  case herr =>
    intro _ p' h
    rw [eq_of_error h]
    exact ⟨hp, rfl⟩

theorem markEmitted_wp {id : String} {db : Db} (now : String) (hp : p.Once sink)
    (hs : id ∈ p.world.seen sink) (hm : p.MarksBut id db) :
    (perform (.markEmitted now id) : ServiceM Unit).wp env (Once sink)
      (fun _ p' => p'.MarksBut id db) (fun _ p' => p'.MarksBut id db) p := by
  have ⟨w, ids⟩ := p
  apply wp.perform hp
  case hok =>
    intro _ ⟨w', ids'⟩ h
    have ⟨db', hdb, hw⟩ := Event.transact_ok_iff.mp (World.env_ok_iff.mp h.1)
    have hw : w' = { w with db := db' } := hw
    have hi := ids_of_board_eq h (show w'.board = w.board by rw [hw])
    simp only at hi
    rw [hw, hi, Db.markEmitted_eq_ok hdb]
    exact ⟨hp.mark (hp.seen id hs), fun id' hne =>
      (Db.wasEmitted_setEmitted_of_ne hne).trans (hm id' hne)⟩
  case herr =>
    intro _ p' h
    rw [eq_of_error h]
    exact ⟨hp, hm⟩

-- What both services do with a record whose receiving_id is not marked.
theorem deliver_wp {α : Type} {record : ReceivingRecord} {now : String} {a : α} {db : Db}
    (hp : p.Once sink) (hn : p.world.db.wasEmitted record.receivingId = false)
    (hm : p.MarksBut record.receivingId db) :
    (if record.matchStatus = .needsAttention then do
        perform (.surfaceAttention sink record)
        perform (.markEmitted now record.receivingId)
        .pure a
      else do
        perform (.emit sink record)
        perform (.markEmitted now record.receivingId)
        .pure a : ServiceM α).wp env (Once sink)
      (fun _ p' => p'.MarksBut record.receivingId db)
      (fun _ p' => p'.MarksBut record.receivingId db) p := by
  have hkeep {p' : Posted} (hd : p'.world.db = p.world.db) : p'.MarksBut record.receivingId db :=
    fun id' hne => hd ▸ hm id' hne
  have hrest {op : Port Unit} {item : CreatedItem}
      (hop : ∀ w, World.handle Unit op w = (.ok (), w.post sink record.receivingId item))
      (hs : op.subject = some record.receivingId) :
      (do perform op; perform (.markEmitted now record.receivingId); .pure a : ServiceM α).wp env
        (Once sink) (fun _ p' => p'.MarksBut record.receivingId db)
        (fun _ p' => p'.MarksBut record.receivingId db) p := by
    refine .bind <| (post_wp hop hs hp hn).mono (fun _ p' hp' h => ?_) (fun _ _ _ h => hkeep h)
    have hmark := markEmitted_wp now hp' h.1 (hkeep h.2)
    exact .bind <| hmark.mono (fun _ _ hp h => ⟨hp, h⟩) (fun _ _ _ h => h)
  split
  case isTrue  => exact hrest (fun _ => rfl) rfl
  case isFalse => exact hrest (fun _ => rfl) rfl

theorem quiet_wp {α : Type} {q : ServiceM α} (hp : p.Once sink) (hq : q.Uses IsQuiet) :
    q.wp env (Once sink) (fun _ _ => True) (fun _ _ => True) p :=
  (wp.frame (E := env) (F := Once sink) (fun hop he hp => hp.quiet he hop) (fun _ hp => hp) hq
    hp).mono
    (fun _ _ _ _ => trivial) (fun _ _ _ _ => trivial)

theorem emitOnce_wp {clock : Clock py} {record : ReceivingRecord} (hp : p.Once sink) :
    (emitOnce clock sink record).wp env (Once sink) (fun _ _ => True) (fun _ _ => True) p := by
  refine .bind <| .perform hp ?ok ?err
  case err => exact fun _ _ he => ⟨hp.quiet he trivial, trivial⟩
  case ok =>
    intro marked p' he
    have hp' : p'.Once sink := hp.quiet he trivial
    have ⟨hm, hw⟩ := eq_of_query rfl he
    refine ⟨hp', ?_⟩
    split
    case isTrue => exact ⟨hp', trivial⟩
    case isFalse hn =>
      have hn' : p'.world.db.wasEmitted record.receivingId = false :=
        hw ▸ hm.trans (Bool.eq_false_iff.mpr hn)
      exact (deliver_wp hp' hn' (fun _ _ => rfl)).mono
        (fun _ _ _ _ => trivial) (fun _ _ _ _ => trivial)

theorem processScan_wp {s : Scan py} (hs : s.sink = sink) (hp : p.Once sink) :
    s.program.wp env (Once sink) (fun _ _ => True) (fun _ _ => True) p := by
  subst hs
  have hread {p : Posted} {α : Type} {op : Port α} {f : α → ServiceM ReceivingRecord}
      (hp : p.Once s.sink)
      (hf : ∀ a p, p.Once s.sink →
        (f a).wp env (Once s.sink) (fun _ _ => True) (fun _ _ => True) p)
      (hq : IsQuiet α op) :
      (perform op >>= f).wp env (Once s.sink) (fun _ _ => True) (fun _ _ => True) p :=
    .bind <| (quiet_wp hp (.perform hq)).mono (fun a p hp _ => hf a p hp) (fun _ _ _ h => h)
  have hmiss {p : Posted} (hp : p.Once s.sink) :
      s.miss.wp env (Once s.sink) (fun _ _ => True) (fun _ _ => True) p :=
    hread hp (fun _ _ hp => emitOnce_wp hp) trivial
  rw [Scan.program_eq]
  refine hread hp (fun candidates p hp => ?_) trivial
  cases h : resolveRow py s.barcode candidates
  case some row =>
    cases hid : row.inventoryId
    case none =>
      have hm := Scan.afterRead_of_null h hid
      exact hm ▸ ⟨hp, trivial⟩
    case some id =>
      rw [Scan.afterRead_of_some h hid]
      exact hread hp (fun _ _ hp => emitOnce_wp hp) trivial
  case none =>
    by_cases hb : s.serial = ""
    case pos =>
      rw [Scan.afterRead_of_blank h hb]
      exact hmiss hp
    case neg =>
      rw [Scan.afterRead_of_none h hb]
      refine hread hp (fun dup p hp => ?_) trivial
      cases dup
      case none     => exact hmiss hp
      case some dup => exact ⟨hp, trivial⟩

-- ### sync_pending

-- The validation of a row is not to be evaluated.
attribute [local irreducible] fromDict

theorem processItem_wp {markedAt id : String} {item : Dict} (hp : p.Once sink)
    (hid : ∀ record, fromDict py item = .ok record → record.receivingId = id)
    (hn : p.world.db.wasEmitted id = false) :
    (processItem py markedAt sink item).wp env (Once sink)
      (fun _ p' => p'.MarksBut id p.world.db) (fun _ p' => p'.MarksBut id p.world.db) p := by
  cases hr : fromDict py item
  case error e   =>
    simp only [processItem, hr]
    exact ⟨hp, fun _ _ => rfl⟩
  case ok record =>
    simp only [processItem, hr, ofExcept_ok, pure_bind]
    rw [← hid record hr] at hn ⊢
    exact deliver_wp hp hn (fun _ _ => rfl)

-- One turn of the loop, for an item that is not marked.
theorem syncItem_wp {markedAt : String} {result : SyncResult} {row : ItemRow} (hp : p.Once sink)
    (hn : p.world.db.wasEmitted row.receivingId = false) :
    (syncItem py markedAt sink result row).wp env (Once sink)
      (fun _ p' => p'.MarksBut row.receivingId p.world.db) (fun _ _ => True) p := by
  have hid (record : ReceivingRecord) (h : fromDict py row.toDict = .ok record) :
      record.receivingId = row.receivingId := by
    rw [(fromDict_row_iff.mp h).2]
    rfl
  unfold syncItem
  generalize row.toDict = item at hid ⊢
  refine .tryCatch <| .bind <| (processItem_wp hp hid hn).mono (fun status p' hp' hm => ?_)
    (fun e p' hp' hm => ?_)
  case refine_1 =>
    split
    all_goals exact ⟨hp', hm⟩
  case refine_2 =>
    split
    case isTrue  => exact ⟨hp', hm⟩
    case isFalse => exact ⟨hp', trivial⟩

-- The items the loop stands before have different receiving_ids, none of them marked.
structure Awaits (sink : SinkId) (items : List ItemRow) (p : Posted) : Prop where
  once     : p.Once sink
  nodup    : (items.map (·.receivingId)).Nodup
  unmarked : ∀ row ∈ items, p.world.db.wasEmitted row.receivingId = false

theorem Awaits.tail {row : ItemRow} {items : List ItemRow} (h : p.Awaits sink (row :: items))
    (hp' : p'.Once sink) (hm : p'.MarksBut row.receivingId p.world.db) :
    p'.Awaits sink items := by
  have ⟨hn, hd⟩ := List.nodup_cons.mp h.nodup
  refine ⟨hp', hd, fun row' hr' => ?_⟩
  have hne : row'.receivingId ≠ row.receivingId :=
    fun he => hn (List.mem_map.mpr ⟨row', hr', he⟩)
  exact (hm _ hne).trans (h.unmarked row' (List.mem_cons_of_mem row hr'))

theorem Awaits.getPending (hp : p.Once sink) : p.Awaits sink p.world.db.getPending where
  once     := hp
  nodup    := Db.nodup_getPending
  unmarked := fun _ => Db.wasEmitted_of_mem_getPending

theorem syncPending_wp {markedAt : Nat → String} (hp : p.Once sink) :
    (syncPending py markedAt sink).wp env (Once sink) (fun _ _ => True) (fun _ _ => True) p := by
  refine .bind <| .perform hp ?ok ?err
  case err => exact fun _ _ he => ⟨hp.quiet he trivial, trivial⟩
  case ok =>
    intro pending p' he
    have hp' : p'.Once sink := hp.quiet he trivial
    have ⟨hpending, hw⟩ := eq_of_query rfl he
    have hawaits : p'.Awaits sink (pending.zipIdx.map Prod.fst) := by
      rw [List.zipIdx_map_fst, ← hpending, hw]
      exact .getPending hp'
    have hloop := wp.foldlM (E := env) (I := Once sink) (X := fun _ _ => True)
      (f := fun result (x : ItemRow × Nat) => syncItem py (markedAt x.2) sink result x.1)
      (J := fun l (_ : SyncResult) p => p.Awaits sink (l.map Prod.fst))
      (fun x l result p h => (syncItem_wp h.once (h.unmarked x.1 List.mem_cons_self)).mono
        (fun _ _ hp' hm => h.tail hp' hm) (fun _ _ _ h => h))
      (a := ⟨pending.length, 0, 0, 0⟩) hawaits (fun _ _ h => h.once)
    refine ⟨hp', .bind <| hloop.mono (fun result p hp _ => ?_) (fun _ _ _ h => h)⟩
    dsimp only
    split
    all_goals exact ⟨hp, trivial⟩

-- ### Sessions

-- What one process with one sink adapter can come to: it starts where the items on the board are
-- those of the marked records, and loads, scans and syncs, each of which may stop anywhere.
inductive Session (py : PyStd) (sink : SinkId) : Posted → Prop
  | start {p : Posted} :
      p.world.seen sink = [] → p.ids.Nodup → (∀ id, id ∈ p.ids ↔ p.world.db.wasEmitted id) →
      Session py sink p
  | load {p p' : Posted} {now : String} {items : List LineItem} {q : ServiceM Unit} :
      Session py sink p → Steps env p (perform (.upsertItems now items)) p' q → Session py sink p'
  | scan {p p' : Posted} {s : Scan py} {q : ServiceM ReceivingRecord} :
      Session py sink p → s.sink = sink → Steps env p s.program p' q → Session py sink p'
  | sync {p p' : Posted} {markedAt : Nat → String} {q : ServiceM SyncResult} :
      Session py sink p → Steps env p (syncPending py markedAt sink) p' q → Session py sink p'

theorem Session.once (h : Session py sink p) : p.Once sink := by
  induction h
  case start hs hn hm =>
    exact ⟨hn, hs ▸ fun _ h => absurd h List.not_mem_nil, fun id => (hm id).mpr,
      fun id h => .inr ((hm id).mp h)⟩
  case load now items _ _ hsteps ih =>
    have hq : IsQuiet Unit (.upsertItems now items) := trivial
    exact (quiet_wp ih (.perform hq)).invariant hsteps
  case scan hs hsteps ih => exact (processScan_wp hs ih).invariant hsteps
  case sync hsteps ih    => exact (syncPending_wp ih).invariant hsteps

-- In one process, no receiving_id has more than one item, and a marked record has exactly one.
theorem Session.emitted_once (h : Session py sink p) :
    (∀ id, p.ids.count id ≤ 1) ∧
      ∀ row ∈ p.world.db.receivingItems.rows, row.emitted → p.ids.count row.receivingId = 1 := by
  constructor
  · exact List.nodup_iff_count_le_one.mp h.once.nodup
  · intro row hr he
    have hid := h.once.marked row.receivingId (Db.wasEmitted_of_mem hr ▸ he)
    exact List.count_eq_one_of_mem h.once.nodup hid

-- The log stands in no call's way.
theorem steps_of_world {α : Type} {w w' : World} {q q' : ServiceM α} (ids : List String)
    (h : Steps World.env w q w' q') : ∃ ids', Steps env ⟨w, ids⟩ q ⟨w', ids'⟩ q' := by
  induction h generalizing ids
  case refl => exact ⟨ids, .refl _ _⟩
  case call op _ _ s s₁ _ _ he _ ih =>
    have ⟨ids', h⟩ :=
      ih (ids ++ (s₁.board.drop s.board.length).filterMap (fun _ => op.subject))
    exact ⟨ids', .call ⟨he, rfl⟩ h⟩

-- A process in which the only unit of the catalog has been scanned.
theorem Session.emitted_once_sample :
    ∃ p : Posted, p.world = Scan.sample.after .oneUnit ∧ (∀ id, p.ids.count id ≤ 1) ∧
      ∀ row ∈ p.world.db.receivingItems.rows, row.emitted → p.ids.count row.receivingId = 1 := by
  have hanswer : Scan.sample.answer .oneUnit = some .received := by decide +kernel
  have ⟨_, hc, _⟩ := Scan.completes_of_answer hanswer
  have ⟨ids, hsteps⟩ := steps_of_world [] (Scan.returns_iff.mpr hc)
  have hempty : World.oneUnit.db.receivingItems.rows = [] :=
    List.isEmpty_iff.mp (by decide +kernel)
  have hstart : Session .ascii 0 ⟨.oneUnit, []⟩ :=
    .start rfl .nil (fun id => by simp [Db.wasEmitted, Relational.Table.find, hempty])
  exact ⟨_, rfl, (Session.scan hstart rfl hsteps).emitted_once⟩

end Posted
end ReceivingApp
