import ReceivingApp.Adapters.SinkApi
import ReceivingApp.Lib.BigStep
import ReceivingApp.Theorems.Delivery

open Interaction Program

namespace ReceivingApp

-- ### The adapter over its API

namespace SinkApi

variable {fmt : Formats} {sink : ResultSinkAdapter}

-- What both methods of the adapter come to.
def deliver (fmt : Formats) (sink : ResultSinkAdapter) (id : String) (group : SinkGroup)
    (record : ReceivingRecord) (statusLabel : String) : SinkM Unit := do
  if ← .perform (.isSeen id) then
    return
  createItem fmt sink group record statusLabel
  .perform (.remember id)

theorem emit_eq (record : ReceivingRecord) :
    emit fmt sink record =
      if record.matchStatus = .received then
        deliver fmt sink record.receivingId .ready record "READY"
      else deliver fmt sink record.receivingId .noMatch record "NO MATCH" := by
  unfold emit
  split <;> rfl

theorem surfaceAttention_eq (record : ReceivingRecord) :
    surfaceAttention fmt sink record =
      deliver fmt sink record.receivingId .attention record "NEEDS ATTENTION" :=
  rfl

end SinkApi

-- The adapter `k` as it stands with its API.
def Shop.session (s : Shop) (sink : ResultSinkAdapter) (k : SinkId) : SinkSession where
  created := s.world.board.map sink.createRequest
  seen    := s.world.seen k

section Deliver

variable {fmt : Formats} {sink : ResultSinkAdapter} {s s' : SinkSession} {x : Except PyExc Unit}
variable {k : SinkId} {id label : String} {group : SinkGroup} {record : ReceivingRecord} {sh : Shop}

-- A request that nothing good comes of leaves open whether it was carried out.
theorem ends_createItem_iff :
    Ends (SinkSession.Answers fmt) s (SinkApi.createItem fmt sink group record label) s' x ↔
      (x = .ok () ∧ s' = { s with
        created := s.created ++ [sink.createRequest (createItem group record label)] }) ∨
      ∃ e, x = .error e ∧ (s' = s ∨ s' = { s with
        created := s.created ++ [sink.createRequest (createItem group record label)] }) := by
  simp only [SinkApi.createItem, ends_bind_iff, ends_perform_iff, ends_ofExcept_iff]
  constructor
  case mp =>
    rintro (⟨response, s₁, ha, ⟨data, s₂, ⟨rfl, hd⟩, hs⟩ | ⟨e, ⟨rfl, -⟩, rfl⟩⟩ | ⟨e, ha, rfl⟩)
    case inl.inl =>
      obtain ⟨rfl, rfl⟩ := ends_pure_iff.mp hs
      rcases ha with ⟨rfl, ha⟩ | rfl
      · exact absurd hd.symm (ha response data rfl)
      · exact .inl ⟨rfl, rfl⟩
    case inl.inr => exact .inr ⟨e, rfl, ha.imp And.left fun h => h⟩
    case inr     => exact .inr ⟨e, rfl, ha.imp And.left fun h => h⟩
  case mpr =>
    rintro (⟨rfl, rfl⟩ | ⟨e, rfl, hs⟩)
    case inl =>
      refine .inl ⟨.json (.dict []), _, .inr rfl, .inl ⟨.dict [], _, ⟨rfl, rfl⟩, ?_⟩⟩
      exact ends_pure_iff.mpr ⟨rfl, rfl⟩
    case inr => exact .inr ⟨e, hs.imp (fun hs => ⟨hs, nofun⟩) fun h => h, rfl⟩

theorem session_post {item : CreatedItem} (h : id ∉ sh.world.seen k) :
    ((sh.create k id item).remember k id).session sink k =
      ⟨(sh.session sink k).created ++ [sink.createRequest item],
        id :: (sh.session sink k).seen⟩ := by
  simp [Shop.session, Shop.remember, Shop.create, h]

-- What a method of the adapter comes to with its API is what the adapter comes to for the scanners.
theorem ends_deliver_iff :
    Ends (SinkSession.Answers fmt) (sh.session sink k)
        (SinkApi.deliver fmt sink id group record label) s' x ↔
      ∃ created sh', Shop.Posts k id (createItem group record label) sh x created sh' ∧
        s' = sh'.session sink k := by
  unfold SinkApi.deliver
  rw [ends_bind_iff]
  simp only [ends_perform_iff]
  constructor
  case mp =>
    rintro (⟨seen, s₁, ⟨hseen, rfl⟩, hs⟩ | ⟨e, ⟨hseen, -⟩, -⟩)
    case inr => cases hseen
    case inl =>
      cases hseen
      by_cases hk : id ∈ sh.world.seen k
      case pos =>
        have hk' : id ∈ (sh.session sink k).seen := hk
        simp only [hk', decide_true, if_true] at hs
        obtain ⟨rfl, rfl⟩ := ends_pure_iff.mp hs
        exact ⟨none, sh, .seen hk, rfl⟩
      case neg =>
        have hk' : id ∉ (sh.session sink k).seen := hk
        simp only [hk', decide_false, Bool.false_eq_true, if_false] at hs
        rcases ends_bind_iff.mp hs with ⟨_, s₂, hc, hr⟩ | ⟨e, hc, rfl⟩
        · obtain ⟨rfl, rfl⟩ := ends_perform_iff.mp hr
          obtain ⟨-, rfl⟩ | ⟨e, he, -⟩ := ends_createItem_iff.mp hc
          · exact ⟨_, _, .posted hk, (session_post hk).symm⟩
          · cases he
        · obtain ⟨he, -⟩ | ⟨_, -, rfl | rfl⟩ := ends_createItem_iff.mp hc
          · cases he
          · exact ⟨_, _, .failed _ hk, rfl⟩
          · exact ⟨_, _, .lost _ hk, by simp [Shop.session, Shop.create]⟩
  case mpr =>
    rintro ⟨created, sh', h, rfl⟩
    refine .inl ⟨decide (id ∈ (sh.session sink k).seen), _, ⟨rfl, rfl⟩, ?_⟩
    have hskip (hk : id ∉ sh.world.seen k) : id ∉ (sh.session sink k).seen := hk
    cases h
    case seen hk =>
      have hk' : id ∈ (sh.session sink k).seen := hk
      simp only [hk', decide_true, if_true]
      exact ends_pure_iff.mpr ⟨rfl, rfl⟩
    case posted hk =>
      simp only [hskip hk, decide_false, Bool.false_eq_true, if_false]
      refine ends_bind_iff.mpr <| .inl ⟨(), _, ends_createItem_iff.mpr (.inl ⟨rfl, rfl⟩), ?_⟩
      exact ends_perform_iff.mpr ⟨rfl, session_post hk⟩
    case failed e hk =>
      simp only [hskip hk, decide_false, Bool.false_eq_true, if_false]
      refine ends_bind_iff.mpr <| .inr ⟨e, ends_createItem_iff.mpr (.inr ⟨e, rfl, .inl rfl⟩), rfl⟩
    case lost e hk =>
      simp only [hskip hk, decide_false, Bool.false_eq_true, if_false]
      refine ends_bind_iff.mpr <| .inr ⟨e, ends_createItem_iff.mpr (.inr ⟨e, rfl, .inr ?_⟩), rfl⟩
      simp [Shop.session, Shop.create]

end Deliver

-- The two methods of the adapter, over requests whose responses may get lost, are no more and no less
-- than the calls that the scanners and the syncs make.
theorem sinkApi_refines (fmt : Formats) (sink : ResultSinkAdapter) (k : SinkId)
    (record : ReceivingRecord) (sh : Shop) (s' : SinkSession) (x : Except PyExc Unit) :
    (Ends (SinkSession.Answers fmt) (sh.session sink k) (SinkApi.emit fmt sink record) s' x ↔
      ∃ created sh', Shop.Step Unit (.emit k record) sh x created sh' ∧
        s' = sh'.session sink k) ∧
    (Ends (SinkSession.Answers fmt) (sh.session sink k)
        (SinkApi.surfaceAttention fmt sink record) s' x ↔
      ∃ created sh', Shop.Step Unit (.surfaceAttention k record) sh x created sh' ∧
        s' = sh'.session sink k) := by
  constructor
  case left =>
    simp only [SinkApi.emit_eq, Shop.Step, emittedItem]
    split <;> exact ends_deliver_iff
  case right =>
    rw [SinkApi.surfaceAttention_eq]
    exact ends_deliver_iff

-- ### NullSink

-- The calls of a process with a NullSink. None of the sink's calls fails.
def NullWorld.Answers : Env Port PyExc NullWorld := fun
  | _, .emit sink record, w, r, w'             => r = .ok () ∧ w' = w.emit sink record
  | _, .surfaceAttention sink record, w, r, w' => r = .ok () ∧ w' = w.surfaceAttention sink record
  | _, op, w, r, w' => ∃ db, World.env _ op ⟨w.db, [], w.seen⟩ r ⟨db, [], w.seen⟩ ∧
      w' = { w with db }

-- The calls of a process whose sink adapter never raises.
def World.reliable : Env Port PyExc World :=
  fun β op w r w' => World.env β op w r w' ∧ (op.isSink → ∃ b, r = .ok b)

-- An entry of the log tells of an item.
def Tells (entry : Dict) (item : CreatedItem) : Prop :=
  ∃ record : ReceivingRecord,
    (entry = NullSink.emitEntry record ∧ item = emittedItem record) ∨
    (entry = NullSink.attentionEntry record ∧
      item = createItem .attention record "NEEDS ATTENTION")

-- The log tells of the items of the board, one by one, and all else is the same.
structure Imitates (n : NullWorld) (w : World) : Prop where
  db   : n.db = w.db
  seen : n.seen = w.seen
  log  : List.Forall₂ Tells n.log w.board

section NullSink

variable {n n' : NullWorld} {w w' : World} {β : Type} {op : Port β} {r : Except PyExc β}

theorem Imitates.post (h : Imitates n w) {sink : SinkId} {id : String} {entry : Dict}
    {item : CreatedItem} (ht : Tells entry item) :
    Imitates (n.note sink id entry) (w.post sink id item) := by
  by_cases hs : id ∈ w.seen sink
  case pos =>
    have hs' : id ∈ n.seen sink := h.seen ▸ hs
    simpa only [NullWorld.note, World.post, hs, hs', if_true] using h
  case neg =>
    have hs' : id ∉ n.seen sink := h.seen ▸ hs
    simp only [NullWorld.note, World.post, hs, hs', if_false]
    exact ⟨h.db, by rw [h.seen], List.rel_append h.log (.cons ht .nil)⟩

-- What the repository does and answers depends on the database only.
theorem env_of_db (hop : op.isSink = false) (h : World.env β op w r w') {w₀ : World}
    (hw : w₀.db = w.db) : World.env β op w₀ r { w₀ with db := w'.db } := by
  obtain ⟨db, board, seen⟩ := w
  obtain ⟨db₀, board₀, seen₀⟩ := w₀
  obtain rfl : db₀ = db := hw
  cases h
  case fault hf =>
    cases hf
    case repository msg _   => exact .fault (.repository msg (by simp [hop]))
    case emit               => cases hop
    case surfaceAttention   => cases hop
  case done =>
    have ht (x : Except PyExc Db) : World.transact ⟨db₀, board₀, seen₀⟩ x =
        ((World.transact ⟨db₀, board, seen⟩ x).1,
          ⟨(World.transact ⟨db₀, board, seen⟩ x).2.db, board₀, seen₀⟩) := by
      cases x <;> rfl
    have hd := @Faulty.done _ _ _ World.handle World.Fault _ op ⟨db₀, board₀, seen₀⟩
    have he : World.handle β op ⟨db₀, board₀, seen₀⟩ =
        ((World.handle β op ⟨db₀, board, seen⟩).1,
          ⟨(World.handle β op ⟨db₀, board, seen⟩).2.db, board₀, seen₀⟩) := by
      cases op
      case emit | surfaceAttention => cases hop
      case upsertItems | markEmitted | replacePoItems => exact ht _
      all_goals rfl
    rwa [he] at hd

theorem NullWorld.answers_iff (hop : op.isSink = false) :
    NullWorld.Answers β op n r n' ↔
      ∃ db, World.env β op ⟨n.db, [], n.seen⟩ r ⟨db, [], n.seen⟩ ∧ n' = { n with db } := by
  cases op
  case emit | surfaceAttention => cases hop
  all_goals exact .rfl

theorem reliable_of_null (h : NullWorld.Answers β op n r n') (hi : Imitates n w) :
    ∃ w', World.reliable β op w r w' ∧ Imitates n' w' := by
  by_cases hop : op.isSink
  case neg =>
    have hop : op.isSink = false := Bool.eq_false_iff.mpr hop
    obtain ⟨db, he, rfl⟩ := (NullWorld.answers_iff hop).mp h
    refine ⟨{ w with db }, ⟨env_of_db hop he hi.db.symm, by simp [hop]⟩, ?_⟩
    exact ⟨rfl, hi.seen, hi.log⟩
  case pos =>
    cases op
    case emit sink record =>
      obtain ⟨rfl, rfl⟩ := h
      have he : World.env Unit (.emit sink record) w (.ok ()) (w.emit sink record) :=
        World.env_ok_iff.mpr rfl
      exact ⟨w.emit sink record, ⟨he, fun _ => ⟨_, rfl⟩⟩, hi.post ⟨record, .inl ⟨rfl, rfl⟩⟩⟩
    case surfaceAttention sink record =>
      obtain ⟨rfl, rfl⟩ := h
      have he : World.env Unit (.surfaceAttention sink record) w (.ok ())
          (w.surfaceAttention sink record) :=
        World.env_ok_iff.mpr rfl
      exact ⟨w.surfaceAttention sink record, ⟨he, fun _ => ⟨_, rfl⟩⟩,
        hi.post ⟨record, .inr ⟨rfl, rfl⟩⟩⟩
    all_goals cases hop

theorem null_of_reliable (h : World.reliable β op w r w') (hi : Imitates n w) :
    ∃ n', NullWorld.Answers β op n r n' ∧ Imitates n' w' := by
  obtain ⟨he, hok⟩ := h
  by_cases hop : op.isSink
  case neg =>
    have hop : op.isSink = false := Bool.eq_false_iff.mpr hop
    have ⟨hseen, hboard⟩ := sinkSide_of_env hop he
    refine ⟨{ n with db := w'.db }, (NullWorld.answers_iff hop).mpr ⟨w'.db, ?_, rfl⟩, ?_⟩
    · show World.env β op ⟨n.db, [], n.seen⟩ r { (⟨n.db, [], n.seen⟩ : World) with db := w'.db }
      exact env_of_db hop he hi.db
    · exact ⟨rfl, hi.seen.trans hseen.symm, hboard ▸ hi.log⟩
  case pos =>
    obtain ⟨b, rfl⟩ := hok hop
    rw [World.env_ok_iff] at he
    cases op
    case emit sink record =>
      cases he
      exact ⟨n.emit sink record, ⟨rfl, rfl⟩, hi.post ⟨record, .inl ⟨rfl, rfl⟩⟩⟩
    case surfaceAttention sink record =>
      cases he
      exact ⟨n.surfaceAttention sink record, ⟨rfl, rfl⟩, hi.post ⟨record, .inr ⟨rfl, rfl⟩⟩⟩
    all_goals cases hop

end NullSink

-- Any number of processes that run with a NullSink go through what they go through with an adapter
-- that never raises, in every interleaving and whatever the repository does: all calls are answered
-- the same, and for each item that there is on the board there is an entry in the log.
theorem nullSink_imitates {ι α : Type} [DecidableEq ι] {P Q : ι → ServiceM α} {n : NullWorld}
    {w : World} (h : Imitates n w) :
    (∀ n', Pool.Steps NullWorld.Answers (n, P) (n', Q) →
      ∃ w', Pool.Steps World.reliable (w, P) (w', Q) ∧ Imitates n' w') ∧
    (∀ w', Pool.Steps World.reliable (w, P) (w', Q) →
      ∃ n', Pool.Steps NullWorld.Answers (n, P) (n', Q) ∧ Imitates n' w') := by
  constructor
  case left  => exact fun n' hs => hs.simulate reliable_of_null h
  case right =>
    intro w' hs
    show ∃ n', Pool.Steps NullWorld.Answers (n, P) (n', Q) ∧ flip Imitates w' n'
    exact hs.simulate null_of_reliable h

-- ### Two scanners without a board

def NullWorld.handle : Handler Port PyExc NullWorld := fun
  | _, .emit sink record, n             => (.ok (), n.emit sink record)
  | _, .surfaceAttention sink record, n => (.ok (), n.surfaceAttention sink record)
  | _, op, n =>
    let (r, w) := World.handle _ op ⟨n.db, [], n.seen⟩
    (r, { n with db := w.db })

theorem NullWorld.answers_handle (β : Type) (op : Port β) (n : NullWorld) :
    NullWorld.Answers β op n (handle β op n).1 (handle β op n).2 := by
  have hdone := @Faulty.done _ _ _ World.handle World.Fault _ op ⟨n.db, [], n.seen⟩
  have ht (x : Except PyExc Db) : (World.transact ⟨n.db, [], n.seen⟩ x).2 =
      ⟨(World.transact ⟨n.db, [], n.seen⟩ x).2.db, [], n.seen⟩ := by
    cases x <;> rfl
  cases op
  case emit | surfaceAttention => exact ⟨rfl, rfl⟩
  case upsertItems | markEmitted | replacePoItems => exact ⟨_, ht _ ▸ hdone, rfl⟩
  all_goals exact ⟨_, hdone, rfl⟩

-- Each scans a barcode that matches nothing.
def unknownBarcodes (i : Bool) : ServiceM ReceivingRecord :=
  (⟨if i then "Y" else "Z", "P", "", 0, .sample⟩ : Scan .ascii).program

-- Two processes that take turns on an empty log. Both emit, and the board would have two items.
theorem nullSink_imitates_sample :
    let n : NullWorld := ⟨World.oneUnit.db, [], fun _ => []⟩
    ∃ n' w' Q, n'.log.length = 2 ∧ (Q true).value.isSome ∧ (Q false).value.isSome ∧
      Pool.Steps NullWorld.Answers (n, unknownBarcodes) (n', Q) ∧
      Pool.Steps World.reliable (.oneUnit, unknownBarcodes) (w', Q) ∧ Imitates n' w' := by
  intro n
  have hplayed : (Pool.play NullWorld.handle (fun _ _ _ => true)
      (List.replicate 5 [true, false]).flatten (n, unknownBarcodes)).map
      (fun c => (c.1.log.length, (c.2 true).value.isSome, (c.2 false).value.isSome)) =
      some (2, true, true) := by
    decide +kernel
  obtain ⟨⟨n', Q⟩, hplay, hends⟩ := Option.map_eq_some_iff.mp hplayed
  injection hends with hlog hends
  have ⟨htrue, hfalse⟩ := Prod.mk.inj hends
  have hsteps := (Pool.steps_play NullWorld.answers_handle hplay).mono And.left
  have ⟨w', hw, hi⟩ := (nullSink_imitates (Q := Q) ⟨rfl, rfl, .nil⟩).1 n' hsteps
  exact ⟨n', w', Q, hlog, htrue, hfalse, hsteps, hw, hi⟩

end ReceivingApp
