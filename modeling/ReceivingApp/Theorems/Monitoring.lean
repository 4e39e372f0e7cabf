import ReceivingApp.Adapters.SyncStatusDb
import ReceivingApp.Theorems.Audit
import ReceivingApp.Theorems.SyncStops

open Interaction Program Relational

namespace ReceivingApp

-- ### What is stored

def SyncDb.status (db : SyncDb) : Option SyncStatusRecord :=
  db.bind fun t => (t.find 1).map SyncStatusRow.record

theorem SyncDb.status_create (db : SyncDb) : SyncDb.status (some (db.getD .empty)) = db.status := by
  cases db
  case none | some => rfl

-- Whether there was a row or not, what is read back is what was written.
theorem SyncDb.status_upsert (t : Table SyncStatusRow.key) (record : SyncStatusRecord) :
    let row := SyncStatusRow.ofRecord record
    SyncDb.status (some (t.upsert row row.update row.key_update)) = some record := by
  intro row
  have hfind : (t.upsert row row.update row.key_update).find 1 =
      some ((t.find 1).elim row row.update) := Table.find_upsert_self rfl
  rw [SyncDb.status, Option.bind_some, hfind]
  cases t.find 1
  case none | some => rfl

-- A poll alerts for nothing but a stop.
theorem Ui.stopped_of_alert {ui : Ui} {status : Option SyncStatusRecord} {t : String}
    (h : ui.alert (.ok status) = some t) :
    ∃ record, status = some record ∧ record.state = .stopped ∧ record.updatedAt = t := by
  rcases ui.pollMoves (.ok status) with ⟨hq, -⟩ | ⟨⟨⟩, -, ha, -⟩
  case quiet => cases hq.symm.trans h
  case alerts record =>
    refine ⟨record, rfl, ?_, Option.some.inj (ha.symm.trans h)⟩
    by_contra hs
    have hq : ui.pollSyncStatus (.ok (some record)) = ui := by
      simp [pollSyncStatus, shouldAlertSyncStopped, hs]
    simp [alert, hq] at h

namespace RobotSite

variable {α : Type} {s s' : RobotSite} {record : SyncStatusRecord}

-- ### Methods of the store

theorem ends_of_wp {p : SyncStoreM α} {Q : Except PyExc α → RobotSite → Prop} {r : Except PyExc α}
    (hp : p.wp SqlAnswers (fun _ => True) (fun a => Q (.ok a))
      (fun e s => ∀ e', e = .other e' → Q (.error e') s) s)
    (h : Ends p s r s') : Q r s' := by
  cases r
  case ok a    => exact hp.returns h
  case error e => exact hp.raises h e rfl

-- What holds wherever a method raises holds after its handler.
theorem tryRepository_wp {what : String} {p : SyncStoreM α} {Q : α → RobotSite → Prop}
    {X : PyExc → RobotSite → Prop}
    (h : p.wp SqlAnswers (fun _ => True) Q (fun _ s => ∀ e', X e' s) s) :
    (SyncStatusSQLiteStore.tryRepository what p).wp SqlAnswers (fun _ => True) Q
      (fun e s => ∀ e', e = .other e' → X e' s) s := by
  refine .tryCatch <| h.mono (fun _ _ _ h => h) ?_
  rintro (msg | e) s - hX
  case sqlite | other =>
    refine ⟨trivial, ?_⟩
    rintro _ ⟨⟩
    exact hX _

-- All that a statement can come to.
theorem sql_wp {op : SyncSql α} {Q : α → RobotSite → Prop} {X : SchemaExc → RobotSite → Prop}
    (hok : ∀ b db', s.db.execute op = some (b, db') → Q b ⟨db', s.log ++ acts op⟩)
    (herr : ∀ e s', s' = s ∨
      (∃ b db', s.db.execute op = some (b, db') ∧ s' = ⟨db', s.log ++ acts op⟩) → X e s') :
    (perform op : SyncStoreM α).wp SqlAnswers (fun _ => True) Q X s := by
  refine .perform trivial ?ok ?err
  case ok =>
    rintro b s' (⟨b', db', hx, hr | ⟨_, ⟨⟩, _⟩, rfl⟩ | ⟨⟨_, ⟨⟩, _⟩, _⟩)
    cases hr
    exact ⟨trivial, hok b db' hx⟩
  case err =>
    rintro e s' (⟨b, db', hx, -, rfl⟩ | ⟨-, rfl⟩)
    · exact ⟨trivial, herr e _ (.inr ⟨b, db', hx, rfl⟩)⟩
    · exact ⟨trivial, herr e _ (.inl rfl)⟩

-- A write takes place, or it raises. Where it has taken place it may have raised as well.
def Writes (record : SyncStatusRecord) (s s' : RobotSite) : Prop :=
  s'.db.status = some record ∧ s'.log = s.log ++ [.wrote record]

theorem ends_writeSyncStatus {r : Except PyExc Unit}
    (h : Ends (SyncStatusSQLiteStore.writeSyncStatus record) s r s') :
    Writes record s s' ∨ s' = s ∧ ∃ e, r = .error e := by
  have hwrites {b : Unit} {db' : SyncDb}
      (hx : s.db.execute (.insertOnConflict (.ofRecord record)) = some (b, db')) :
      Writes record s ⟨db', s.log ++ [.wrote record]⟩ := by
    obtain ⟨t, -, ⟨⟩⟩ := Option.map_eq_some_iff.mp hx
    exact ⟨SyncDb.status_upsert t record, rfl⟩
  refine ends_of_wp (Q := fun r s' => Writes record s s' ∨ s' = s ∧ ∃ e, r = .error e)
    (tryRepository_wp <| sql_wp ?ok ?err) h
  case ok  => exact fun _ _ hx => .inl (hwrites hx)
  case err =>
    rintro _ s' (rfl | ⟨_, _, hx, rfl⟩) e
    · exact .inr ⟨rfl, e, rfl⟩
    · exact .inl (hwrites hx)

theorem ends_readSyncStatus {r : Except PyExc (Option SyncStatusRecord)}
    (h : Ends SyncStatusSQLiteStore.readSyncStatus s r s') :
    s' = s ∧ ∀ status, r = .ok status → status = s.db.status := by
  have hreads {row : Option SyncStatusRow} {db' : SyncDb}
      (hx : s.db.execute (.selectWhereId 1) = some (row, db')) :
      (⟨db', s.log ++ []⟩ : RobotSite) = s ∧ row.map SyncStatusRow.record = s.db.status := by
    obtain ⟨db, log⟩ := s
    obtain ⟨t, rfl, ⟨⟩⟩ := Option.map_eq_some_iff.mp hx
    rw [List.append_nil]
    exact ⟨rfl, rfl⟩
  refine ends_of_wp (Q := fun r s' => s' = s ∧ ∀ status, r = .ok status → status = s.db.status)
    (tryRepository_wp <| .bind <| sql_wp ?ok ?err) h
  case ok =>
    intro row _ hx
    have ⟨hs, hrow⟩ := hreads hx
    refine ⟨trivial, hs, ?_⟩
    rintro _ ⟨⟩
    exact hrow
  case err =>
    rintro _ s' (rfl | ⟨_, _, hx, rfl⟩) e
    · exact ⟨rfl, nofun⟩
    · exact ⟨(hreads hx).1, nofun⟩

theorem ends_readSyncStatus_of_status (h : s.db.status = some record) :
    Ends SyncStatusSQLiteStore.readSyncStatus s (.ok (some record)) s := by
  obtain ⟨_ | t, log⟩ := s
  case none => cases h
  case some =>
    have hanswer : SqlAnswers _ (.selectWhereId 1) ⟨some t, log⟩ (.ok (t.find 1)) ⟨some t, log⟩ :=
      .inl ⟨t.find 1, some t, rfl, .inl rfl, by simp [acts]⟩
    rw [← h]
    exact .call hanswer (.refl _ _)

theorem ends_ensureSchema {r : Except PyExc Unit}
    (h : Ends SyncStatusSQLiteStore.ensureSchema s r s') : Others s s' := by
  have hcreates {b : Unit} {db' : SyncDb} (hx : s.db.execute .createTable = some (b, db')) :
      Others s ⟨db', s.log ++ []⟩ := by
    cases hx
    rw [List.append_nil]
    exact .inr rfl
  refine ends_of_wp (Q := fun _ s' => Others s s') (tryRepository_wp <| sql_wp ?ok ?err) h
  case ok  => exact fun _ _ hx => hcreates hx
  case err =>
    rintro _ s' (rfl | ⟨_, _, hx, rfl⟩) e
    · exact .inl rfl
    · exact hcreates hx

end RobotSite

-- ### The status and the items

namespace RobotAct

def record? : RobotAct → Option SyncStatusRecord
  | wrote record => some record
  | _            => none

end RobotAct

def lastWritten (log : List RobotAct) : Option SyncStatusRecord :=
  (log.filterMap RobotAct.record?).getLast?

namespace RobotSite

variable {s s' : RobotSite} {record : SyncStatusRecord}

-- The last record that was written is stored. Items have been touched only where that said that the
-- robot is running.
structure Truthful (s : RobotSite) : Prop where
  stored  : s.db.status = lastWritten s.log
  running : ∀ l₁ a l₂, s.log = l₁ ++ a :: l₂ → a.record? = none →
    (lastWritten l₁).map (·.state) = some .running

-- The robot may touch items.
structure Running (s : RobotSite) : Prop extends s.Truthful where
  state : (lastWritten s.log).map (·.state) = some .running

theorem lastWritten_wrote (log : List RobotAct) :
    lastWritten (log ++ [.wrote record]) = some record := by
  simp [lastWritten, RobotAct.record?]

theorem lastWritten_touched {log : List RobotAct} {a : RobotAct} (ha : a.record? = none) :
    lastWritten (log ++ [a]) = lastWritten log := by
  simp [lastWritten, List.filterMap_append, ha]

theorem Truthful.init : RobotSite.init.Truthful where
  stored          := rfl
  running _ _ _ h := by simp [RobotSite.init] at h

theorem Truthful.others (h : s.Truthful) (ho : Others s s') : s'.Truthful := by
  rcases ho with rfl | rfl
  · exact h
  · exact { h with stored := (SyncDb.status_create s.db).trans h.stored }

theorem Running.others (h : s.Running) (ho : Others s s') : s'.Running := by
  have hlog : s'.log = s.log := by rcases ho with rfl | rfl <;> rfl
  exact ⟨h.toTruthful.others ho, hlog ▸ h.state⟩

theorem Truthful.writes (h : s.Truthful) (hw : Writes record s s') : s'.Truthful where
  stored := by rw [hw.1, hw.2, lastWritten_wrote]
  running := by
    rw [hw.2]
    exact forall_entry_concat_iff.mpr ⟨h.running, nofun⟩

theorem Running.writes (h : s.Truthful) (hw : Writes record s s') (hr : record.state = .running) :
    s'.Running where
  toTruthful := h.writes hw
  state      := by rw [hw.2, lastWritten_wrote, Option.map_some, hr]

theorem Running.touches (h : s.Running) {a : RobotAct} (ha : a.record? = none) :
    Running { s with log := s.log ++ [a] } where
  stored  := h.stored.trans (lastWritten_touched ha).symm
  running := forall_entry_concat_iff.mpr ⟨h.running, fun _ => h.state⟩
  state   := (congrArg _ (lastWritten_touched ha)).trans h.state

-- ### Passes

-- Calls that touch no item, and calls that do not say that the robot has stopped.
def Untouching : ∀ β, RobotCall β → Prop
  | _, .receiveItem _ | _, .mutate _ => False
  | _, _                             => True

def Unstopping : ∀ β, RobotCall β → Prop
  | _, .writeSyncStatus record => record.state = .running
  | _, _                       => True

theorem Truthful.answers {β : Type} {op : RobotCall β} {r : Except PyExc β} (h : s.Truthful)
    (hop : Untouching β op) (ha : Answers β op s r s') : s'.Truthful := by
  cases op
  case receiveItem | mutate => exact hop.elim
  case writeSyncStatus record =>
    rcases ends_writeSyncStatus ha with hw | ⟨rfl, _⟩
    · exact h.writes hw
    · exact h
  case utcNow                    => exact ha.2 ▸ h
  case pollReady | close | sleep => exact (show s' = s from ha) ▸ h

theorem Running.answers {β : Type} {op : RobotCall β} {r : Except PyExc β} (h : s.Running)
    (hop : Unstopping β op) (ha : Answers β op s r s') : s'.Running := by
  cases op
  case receiveItem call => exact (show s' = _ from ha) ▸ h.touches rfl
  case mutate m         => exact (show s' = _ from ha) ▸ h.touches rfl
  case writeSyncStatus record =>
    rcases ends_writeSyncStatus ha with hw | ⟨rfl, _⟩
    · exact .writes h.toTruthful hw hop
    · exact h
  case utcNow                    => exact ha.2 ▸ h
  case pollReady | close | sleep => exact (show s' = s from ha) ▸ h

variable {α : Type} {p : RobotM α}

theorem truthful_wp (hu : Uses Untouching p) (h : s.Truthful) :
    p.wp env Truthful (fun _ => Truthful) (fun _ => Truthful) s :=
  .frame (F := Truthful) (fun hop ⟨_, ho, ha⟩ h => (h.others ho).answers hop ha) (fun _ => id) hu h

theorem running_wp (hu : Uses Unstopping p) (h : s.Running) :
    p.wp env Truthful (fun _ => Running) (fun _ => Running) s :=
  .frame (F := Running) (fun hop ⟨_, ho, ha⟩ h => (h.others ho).answers hop ha)
    (fun _ h => h.toTruthful) hu h

-- A status is written before any item is touched after it.
theorem startStatus_wp {outcome : LastOutcome} {n : Nat} {reason : String} (h : s.Truthful) :
    (writeStatus .running outcome n reason).wp env Truthful (fun _ => Running)
      (fun _ => Truthful) s := by
  refine .bind <| .perform h ?now (by rintro _ _ ⟨_, _, ⟨_, ⟨⟩⟩, _⟩)
  rintro now s₁ ⟨s₂, ho, -, rfl⟩
  have h₁ := h.others ho
  refine ⟨h₁, .perform h₁ ?ok ?err⟩
  case ok =>
    rintro _ s' ⟨s₂, ho, ha⟩
    rcases ends_writeSyncStatus ha with hw | ⟨-, _, ⟨⟩⟩
    exact ⟨(h₁.others ho).writes hw, .writes (h₁.others ho) hw rfl⟩
  case err =>
    rintro _ s' ⟨s₂, ho, ha⟩
    have h' : s'.Truthful := by
      refine (h₁.others ho).answers ?_ ha
      trivial
    exact ⟨h', h'⟩

theorem uses_runningStatus {outcome : LastOutcome} {n : Nat} {reason : String} :
    Uses Unstopping (writeStatus .running outcome n reason) :=
  .bind (.perform trivial) fun _ => .perform rfl

theorem uses_anyStatus {state : SyncState} {outcome : LastOutcome} {n : Nat} {reason : String} :
    Uses Untouching (writeStatus state outcome n reason) :=
  .bind (.perform trivial) fun _ => .perform trivial

theorem uses_routeOutcome {c : Counters} {itemId : String} {outcome : ReceiveOutcome} :
    Uses Unstopping (routeOutcome boardApi c itemId outcome) := by
  cases outcome
  case received =>
    exact .bind (.bind (.perform trivial) fun _ => .perform trivial) fun _ => .pure _
  case notFound | finalizeError => exact .bind (.perform trivial) fun _ => .pure _

theorem escalate_wp {c : Counters} {itemId : String} (h : s.Running) :
    (escalate boardApi c itemId).wp env Truthful (fun _ => Running) (fun _ => Truthful) s := by
  have hmark : Uses Unstopping (boardApi.markNeedsAttention itemId) := .perform trivial
  refine .bind <| (running_wp hmark h).mono (fun _ s _ h => ?_) (fun _ _ _ h => h.toTruthful)
  have hgo (n : Nat) : (do
      writeStatus .running .failure n ""
      return { c with failed := c.failed + 1, consecutiveFailures := n } : RobotM Counters).wp env
        Truthful (fun _ => Running) (fun _ => Truthful) s :=
    (running_wp (.bind uses_runningStatus fun _ => .pure _) h).mono (fun _ _ _ h => h)
      (fun _ _ _ h => h.toTruthful)
  dsimp only
  split
  case isTrue =>
    -- The robot stops here.
    refine .bind <| (truthful_wp uses_anyStatus h.toTruthful).mono ?_ (fun _ _ _ h => h)
    exact fun _ _ hI h => .bind ⟨hI, h⟩
  case isFalse => exact hgo _

theorem receiveNext_running {c : Counters} {item : ReadyItem} (h : s.Running) :
    (receiveNext boardApi c item).wp env Truthful (fun _ => Running) (fun _ => Truthful) s := by
  unfold receiveNext
  split
  case isTrue =>
    have hbody : Uses Unstopping (do
        let outcome ← perform (.receiveItem item.call)
        let c ← routeOutcome boardApi c item.call.itemId outcome
        writeStatus .running .success 0 ""
        return { c with consecutiveFailures := 0 } : RobotM Counters) :=
      .bind (.perform trivial) fun _ => .bind uses_routeOutcome fun _ =>
        .bind uses_runningStatus fun _ => .pure _
    refine .tryCatch <| (running_wp hbody h).mono (fun _ _ _ h => h) (fun e s _ h => ?_)
    split
    case isTrue  => exact escalate_wp h
    case isFalse => exact ⟨h.toTruthful, h.toTruthful⟩
  case isFalse =>
    have hskip : Uses Unstopping (do
        if orEmpty item.itemId ≠ "" then boardApi.markNoMatch item.call.itemId
        return { c with skipped := c.skipped + 1 } : RobotM Counters) := by
      split
      case isTrue  => exact .bind (.perform trivial) fun _ => .pure _
      case isFalse => exact .bind (.pure _) fun _ => .pure _
    exact (running_wp hskip h).mono (fun _ _ _ h => h) (fun _ _ _ h => h.toTruthful)

theorem receivePending_truthful {py : PyStd} (h : s.Truthful) :
    (receivePending py boardApi).wp env Truthful (fun _ => Truthful) (fun _ => Truthful) s := by
  have hpoll : Uses Untouching boardApi.pollReady := .perform trivial
  refine .bind <| (truthful_wp hpoll h).mono (fun items s _ h => ?_) (fun _ _ _ h => h)
  refine .bind <| (startStatus_wp h).mono (fun _ s _ h => ?_) (fun _ _ _ h => h)
  refine .bind <| wp.mono ?loop (Q := fun _ => Running) (X := fun _ => Truthful)
    (fun c s _ h => ?_) (fun _ _ _ h => h)
  case loop =>
    exact wp.foldlM (J := fun _ _ => Running) (fun _ _ _ _ h => receiveNext_running h) h
      (fun _ _ h => h.toTruthful)
  exact truthful_wp (.bind uses_anyStatus fun _ => .pure _) h.toTruthful

theorem pollLoop_truthful {py : PyStd} {n : Nat} (h : s.Truthful) :
    (pollLoop py boardApi n).wp env Truthful (fun _ => Truthful) (fun _ => Truthful) s := by
  refine pollLoop_keeps (fun _ => id) (fun _ => receivePending_truthful) ?close ?sleep n h
  case close =>
    rintro _ _ _ ⟨_, ho, rfl⟩ h
    exact h.others ho
  case sleep =>
    rintro _ _ _ ⟨_, ho, rfl⟩ h
    exact h.others ho

-- ### Runs

-- The robot is started, and is stopped or killed anywhere.
inductive Event
  | robot (n : Nat)
  | others

def Step (py : PyStd) (s : RobotSite) : Event → RobotSite → Prop
  | .robot n, s' => ∃ s₁ q, Ends SyncStatusSQLiteStore.ensureSchema s (.ok ()) s₁ ∧
    Steps env s₁ (pollLoop py boardApi n) s' q
  | .others, s' => Others s s'

theorem Truthful.step {py : PyStd} {e : Event} (hs : Step py s e s') (h : s.Truthful) :
    s'.Truthful := by
  cases e
  case robot n =>
    have ⟨s₁, q, hschema, hsteps⟩ := hs
    exact (pollLoop_truthful (h.others (ends_ensureSchema hschema))).invariant hsteps
  case others => exact h.others hs

-- What can be told from a status that is read.
structure Tells (s : RobotSite) (status : Option SyncStatusRecord) : Prop where
  -- It is the last one that was written.
  last    : status = lastWritten s.log
  -- Where it says that the robot has stopped, nothing has been done since it was written.
  stopped : ∀ record, status = some record → record.state = .stopped →
    s.log.getLast? = some (.wrote record)
  -- An alert is for such a stop.
  alerted : ∀ (ui : Ui) t, ui.alert (.ok status) = some t →
    ∃ record, s.log.getLast? = some (.wrote record) ∧ record.state = .stopped ∧
      record.updatedAt = t

theorem Truthful.tells_stopped (h : s.Truthful) (hl : lastWritten s.log = some record)
    (hr : record.state = .stopped) : s.log.getLast? = some (.wrote record) := by
  rcases List.eq_nil_or_concat' s.log with hs | ⟨l, a, hs⟩
  case inl =>
    rw [hs] at hl
    cases hl
  case inr =>
    rw [hs] at hl
    rw [hs, List.getLast?_append, List.getLast?_singleton, Option.some_or]
    cases a
    case wrote record' =>
      rw [lastWritten_wrote] at hl
      exact congrArg (fun record => some (RobotAct.wrote record)) (Option.some.inj hl)
    all_goals
      rw [lastWritten_touched rfl] at hl
      have hrun := h.running l _ [] hs rfl
      rw [hl, Option.map_some, hr] at hrun
      cases hrun

-- However often the robot is started, killed and started again, and whatever fails: a status that
-- is read from the database is the last one it wrote, it has touched items only while that said
-- that it was running, and where it says that the robot has stopped, no item has been touched
-- since.
theorem status_truthful {py : PyStd} {es : List Event} {status : Option SyncStatusRecord}
    (h : Trace (Step py) .init es s)
    (hr : Ends SyncStatusSQLiteStore.readSyncStatus s (.ok status) s') :
    s.Tells status ∧
      ∀ l₁ a l₂, s.log = l₁ ++ a :: l₂ → a.record? = none →
        (lastWritten l₁).map (·.state) = some .running := by
  have ht : s.Truthful := h.invariant Truthful.step .init
  obtain ⟨-, hstatus⟩ := ends_readSyncStatus hr
  obtain rfl := hstatus status rfl
  refine ⟨⟨ht.stored, ?_, ?_⟩, ht.running⟩
  · exact fun record hrec hstop => ht.tells_stopped (ht.stored ▸ hrec) hstop
  · intro ui t halert
    obtain ⟨record, hrec, hstop, htime⟩ := Ui.stopped_of_alert halert
    exact ⟨record, ht.tells_stopped (ht.stored ▸ hrec) hstop, hstop, htime⟩

-- ### A robot that stops

-- The executor fails for each item.
def play : Handler RobotCall PyExc RobotSite := fun
  | _, .pollReady, s          => (.ok ReadyItem.samples, s)
  | _, .receiveItem c, s      =>
    (.error ⟨.executorError, "timeout"⟩, { s with log := s.log ++ [.received c] })
  | _, .mutate m, s           => (.ok (), { s with log := s.log ++ [.mutated m] })
  | _, .close, s              => (.ok (), s)
  | _, .utcNow, s             => (.ok sampleTime, s)
  | _, .sleep, s              => (.ok (), s)
  | _, .writeSyncStatus record, s =>
    match s.db.execute (.insertOnConflict (.ofRecord record)) with
    | some (_, db) => (.ok (), ⟨db, s.log ++ [.wrote record]⟩)
    | none         => (.error ⟨.repositoryError, "no such table: sync_status"⟩, s)

theorem env_play (β : Type) (op : RobotCall β) (s : RobotSite) :
    env β op s (play β op s).1 (play β op s).2 := by
  refine ⟨s, .inl rfl, ?_⟩
  cases op
  case utcNow => exact ⟨⟨_, rfl⟩, rfl⟩
  case writeSyncStatus record =>
    simp only [play]
    split
    case h_1 hx => exact .call (.inl ⟨_, _, hx, .inl rfl, rfl⟩) (.refl _ _)
    case h_2 =>
      have hraises : Raises (.error (.other ⟨.repositoryError, "no such table: sync_status"⟩) :
          Except SchemaExc Unit) := ⟨_, rfl, by rintro _ ⟨⟩; decide⟩
      exact .call (.inr ⟨hraises, rfl⟩) (.refl _ _)
  all_goals rfl

def created : RobotSite :=
  ⟨some .empty, []⟩

def killed : RobotSite :=
  ((pollLoop .ascii boardApi 1).run play created).2

def killRecord : SyncStatusRecord :=
  ⟨.stopped, .kill, 2, killReason 2, sampleTime⟩

theorem status_truthful_sample : killed.log.length = 7 ∧
    killed.db.status = some killRecord ∧ killed.Tells (some killRecord) := by
  have hstatus : killed.db.status = some killRecord := by decide +kernel
  have hstep : Step .ascii .init (.robot 1) killed :=
    ⟨created, _, .call (.inl ⟨_, _, rfl, .inl rfl, rfl⟩) (.refl _ _), steps_run env_play _ _⟩
  have hread := ends_readSyncStatus_of_status hstatus
  exact ⟨by decide +kernel, hstatus, (status_truthful (.single hstep) hread).1⟩

end RobotSite
end ReceivingApp
