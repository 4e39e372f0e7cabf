import ReceivingApp.Lib.Interference
import ReceivingApp.Theorems.SyncPass
import ReceivingApp.Theorems.Traceability

open Interaction

namespace ReceivingApp

-- ### What the repository does not lose

-- There is a row for each record that was saved, and all rows can be read back.
structure Db.Recorded (py : PyStd) (saved : List Ticket) (db : Db) : Prop where
  listed : ∀ t ∈ saved, (db.receivingItems.find t.receivingId).isSome
  dated  : ∀ id row, db.receivingItems.find id = some row → BlankOrIso py row.timestamp

-- The calls that save nothing that cannot be read back.
def Port.Dates (py : PyStd) : ∀ {β : Type}, Port β → Prop
  | _, saveRecord _ record       => BlankOrIso py record.timestamp
  | _, claimAndSave _ _ _ record => BlankOrIso py record.timestamp
  | _, _                         => True

namespace Db.Recorded

variable {py : PyStd} {saved : List Ticket} {db db' : Db} {now id : String}

theorem of_eq (hd : db.Recorded py saved) (h : db'.receivingItems = db.receivingItems) :
    db'.Recorded py saved where
  listed := h ▸ hd.listed
  dated  := h ▸ hd.dated

theorem saveRecord {record : ReceivingRecord} (hd : db.Recorded py saved)
    (h : BlankOrIso py record.timestamp) :
    (db.saveRecord now record).Recorded py (saved ++ [record.ticket]) where
  listed t ht := by
    rw [find_saveRecord]
    split
    case isTrue => rfl
    case isFalse hn =>
      rcases List.mem_append.mp ht with ht | ht
      · exact hd.listed t ht
      · exact absurd (List.mem_singleton.mp ht ▸ rfl) hn
  dated id row hr := by
    rw [find_saveRecord] at hr
    split at hr
    case isFalse => exact hd.dated id row hr
    case isTrue =>
      cases hr
      cases db.receivingItems.find id <;> exact h

theorem setEmitted (hd : db.Recorded py saved) : (db.setEmitted now id).Recorded py saved where
  listed t ht := by
    rw [find_setEmitted, Option.isSome_map]
    exact hd.listed t ht
  dated id' row hr := by
    rw [find_setEmitted] at hr
    obtain ⟨row', hf, rfl⟩ := Option.map_eq_some_iff.mp hr
    have ht := hd.dated id' row' hf
    split <;> exact ht

theorem transact {w : World} {x : Except PyExc Db} (hd : w.db.Recorded py saved)
    (h : ∀ db, x = .ok db → db.Recorded py saved) : (w.transact x).2.db.Recorded py saved := by
  cases x
  case ok db => exact h db rfl
  case error => exact hd

end Db.Recorded

section

variable {py : PyStd} {saved : List Ticket} {β : Type} {op : Port β} {r : Except PyExc β}
variable {w w' : World}

theorem recorded_of_env (hd : w.db.Recorded py saved) (hop : op.Dates py)
    (h : World.env β op w r w') : w'.db.Recorded py (saved ++ Shop.saves op r) := by
  cases r
  case error =>
    have hn (e : PyExc) : Shop.saves op (.error e) = [] := by cases op <;> rfl
    rw [World.env_error h, hn, List.append_nil]
    exact hd
  case ok b =>
    have he : w' = (World.handle β op w).2 := (congrArg Prod.snd (World.env_ok_iff.mp h)).symm
    subst he
    cases op
    case saveRecord   => exact hd.saveRecord hop
    case claimAndSave inventoryId claimedAt _ _ =>
      have hclaimed : (w.db.claim inventoryId claimedAt).Recorded py saved := hd.of_eq rfl
      exact hclaimed.saveRecord hop
    all_goals
      simp only [Shop.saves, List.append_nil]
    case markEmitted =>
      exact hd.transact fun _ hm => Db.markEmitted_eq_ok hm ▸ hd.setEmitted
    case upsertItems  => exact hd.transact fun _ hu => hd.of_eq (Db.upsertItems_eq_ok hu).2
    case replacePoItems => exact hd.transact fun _ hu => hd.of_eq (Db.replacePoItems_eq_ok hu).2
    case emit             => exact hd.of_eq (congrArg Db.receivingItems World.emit_db)
    case surfaceAttention => exact hd.of_eq (congrArg Db.receivingItems World.surfaceAttention_db)
    all_goals exact hd.of_eq rfl

end

namespace Site

-- ### What has been saved and not been posted

variable {py : PyStd}

def Recorded (py : PyStd) (s : Site) : Prop :=
  s.shop.world.db.Recorded py s.shop.saved

theorem Recorded.of_eq {s s' : Site} (hr : s.Recorded py)
    (hdb : s'.shop.world.db = s.shop.world.db) (hsaved : s'.shop.saved = s.shop.saved) :
    s'.Recorded py := by
  unfold Recorded
  rwa [hdb, hsaved]

theorem recorded_adapter {s s' : Site} {β : Type} {op : AdapterCall β} {r : Except PyExc β}
    (hr : s.Recorded py) (h : Answers β (.adapter op) s r s') : s'.Recorded py := by
  obtain ⟨created, board, hadapts, -⟩ := h
  cases op
  case isSeen =>
    obtain ⟨-, -, hs⟩ := hadapts
    exact hr.of_eq (by rw [hs]) (by rw [hs])
  case create => exact hr.of_eq hadapts.db_eq hadapts.saved_eq
  case remember =>
    obtain ⟨-, -, hs⟩ := hadapts
    exact hr.of_eq (by rw [hs, Shop.remember_db]) (by rw [hs, Shop.remember_saved])

theorem recorded_step {s s' : Site} {β : Type} {op : SiteCall β} {r : Except PyExc β}
    (hr : s.Recorded py) (ha : (discipline py).allows β op {f | Holds f s})
    (h : Answers β op s r s') : s'.Recorded py := by
  have hedited (h : Edited s s') : s'.Recorded py :=
    have ⟨_, he, _⟩ := h
    hr.of_eq (he ▸ rfl) (he ▸ rfl)
  rcases op with ⟨op, hop⟩ | op | op | op
  case people  => cases op; exact hedited h
  case adapter => exact recorded_adapter hr h
  case robot =>
    cases op
    case sleep => exact hedited h
    all_goals exact hr.of_eq (by rw [h.2]) (by rw [h.2])
  case repository =>
    obtain ⟨world, he, -, hs⟩ := h.1.of_not_isSink hop
    have hd : op.Dates py := by
      cases op
      case saveRecord | claimAndSave => exact ha
      all_goals trivial
    unfold Recorded
    rw [hs]
    exact recorded_of_env hr hd he

-- What is true of the site at all times.
structure Sane (py : PyStd) (s : Site) : Prop where
  kept     : s.Kept
  recorded : s.Recorded py

theorem IsFresh.sane {s : Site} (h : s.IsFresh) (hs : s.shop.saved = []) : s.Sane py where
  kept     := h.kept
  recorded := {
    listed := by simp [hs]
    dated  := by simp [Relational.Table.find, h.records]
  }

theorem sane_sound : (discipline py).Sound Answers (Sane py) Holds where
  kept h ha hs      := ⟨(kept_step hs.kept ha h).1, recorded_step hs.recorded ha h⟩
  stable h ha hs hf := hf.grows (kept_step hs.kept ha h).2
  taught h _ hs hf  := taught hs.kept h hf

-- A record that was saved has been posted, or it is pending.
theorem Sane.posted_or_pending {s : Site} (h : s.Sane py) {t : Ticket} (ht : t ∈ s.shop.saved) :
    t.receivingId ∈ s.shop.posted ∨
      ∃ row ∈ s.shop.world.db.getPending, row.receivingId = t.receivingId := by
  have ⟨row, hf⟩ := Option.isSome_iff_exists.mp (h.recorded.listed t ht)
  have hid := ItemRow.receivingId_of_find hf
  cases he : row.emitted
  case true  => exact .inl (h.kept.shop.marked _ (by simp [Db.wasEmitted, hf, he]))
  case false =>
    exact .inr ⟨row, List.mem_filter.mpr ⟨Relational.Table.mem_of_find hf, by simp [he]⟩, hid⟩

-- ### A pass among other processes

-- What a process sees of the site. Between its calls the others do what they are allowed to.
def Peers (py : PyStd) : Program.Env SiteCall PyExc Site :=
  Program.Among (Program.Guarded Answers fun β op s =>
    s.Sane py ∧ (discipline py).allows β op {f | Holds f s}) (·.shop.Grows ·.shop)

-- What one of its services sees where it makes a call.
def Seen (py : PyStd) : Program.Env Port PyExc Site :=
  fun _ op s r s' => Program.Ends (Peers py) s (calls op) s' r

section Seen

variable {s s' : Site} {β : Type} {r : Except PyExc β}

theorem Peers.grows {op : SiteCall β} (h : Peers py β op s r s') : s.shop.Grows s'.shop := by
  obtain ⟨s₁, hg, he, hs, ha⟩ := h
  exact hg.trans (kept_step hs.kept ha he).2

theorem Peers.taught {op : SiteCall β} {f : Fact} (h : Peers py β op s r s')
    (hf : f ∈ (discipline py).teaches β op r) : Holds f s' := by
  obtain ⟨s₁, -, he, hs, -⟩ := h
  exact Site.taught hs.kept he hf

theorem Seen.grows {op : Port β} (h : Seen py β op s r s') : s.shop.Grows s'.shop :=
  Program.Steps.related (R := (·.shop.Grows ·.shop)) (fun s => .refl s.shop) .trans Peers.grows h

-- A post that returns has found its receiving_id posted, or has posted it.
theorem posted_of_post {sink : SinkId} {id : String} {item : CreatedItem}
    (h : Program.Ends (Peers py) s (post sink id item) s' (.ok ())) : id ∈ s'.shop.posted := by
  rcases Program.ends_bind_iff.mp h with ⟨seen, s₁, hseen, h⟩ | ⟨_, -, he⟩
  case inr => cases he
  have hseen := Program.ends_perform_iff.mp hseen
  cases seen
  case true =>
    obtain ⟨rfl, -⟩ := Program.ends_pure_iff.mp h
    exact hseen.taught (f := .posted id) ⟨rfl, rfl⟩
  case false =>
    rcases Program.ends_bind_iff.mp h with ⟨_, s₂, hcreate, h⟩ | ⟨_, -, he⟩
    case inr => cases he
    have hcreate := Program.ends_perform_iff.mp hcreate
    have hremember := Program.ends_perform_iff.mp h
    exact hremember.grows.posted (hcreate.taught (f := .posted id) rfl)

theorem Seen.delivery {sink : SinkId} {record : ReceivingRecord} {u : Unit}
    (h : Seen py _ (delivery sink record) s (.ok u) s') :
    record.receivingId ∈ s'.shop.posted := by
  unfold Seen ReceivingApp.delivery at h
  split at h
  all_goals exact posted_of_post h

theorem Seen.pending {rows : List ItemRow} (h : Seen py _ .getPending s (.ok rows) s')
    {t : Ticket} (ht : t ∈ s.shop.saved) :
    t.receivingId ∈ s'.shop.posted ∨ ∃ row ∈ rows, row.receivingId = t.receivingId := by
  obtain ⟨s₁, hg, ⟨⟨world, hw, -, he⟩, -⟩, hs, -⟩ := Program.ends_perform_iff.mp h
  cases World.env_ok_iff.mp hw
  rw [he]
  exact hs.posted_or_pending (hg.saved ht)

end Seen

section Pass

variable {saved : List Ticket} {sink : SinkId} {markedAt : Nat → String}

-- Unless an item has failed, each of the given records is posted or is still to come.
def Due (saved : List Ticket) (l : List (ItemRow × Nat)) (result : SyncResult) (s : Site) : Prop :=
  result.errors = 0 → ∀ t ∈ saved,
    t.receivingId ∈ s.shop.posted ∨ ∃ x ∈ l, x.1.receivingId = t.receivingId

theorem Due.seen {l : List (ItemRow × Nat)} {result : SyncResult} {s s' : Site} {β : Type}
    {op : Port β} {r : Except PyExc β} (hd : Due saved l result s) (h : Seen py β op s r s') :
    Due saved l result s' :=
  fun he t ht => (hd he t ht).imp_left (h.grows.posted ·)

theorem Due.tail {x : ItemRow × Nat} {l : List (ItemRow × Nat)} {result result' : SyncResult}
    {s : Site} (hd : Due saved (x :: l) result s) (hp : x.1.receivingId ∈ s.shop.posted)
    (he : result'.errors = result.errors) : Due saved l result' s := by
  intro h t ht
  rcases hd (he ▸ h) t ht with hd | ⟨y, hy, hid⟩
  · exact .inl hd
  · rcases List.mem_cons.mp hy with rfl | hy
    · exact .inl (hid ▸ hp)
    · exact .inr ⟨y, hy, hid⟩

-- The validation of a row is not to be evaluated.
attribute [local irreducible] fromDict

-- An item that does not fail has been posted.
theorem syncItem_due {x : ItemRow × Nat} {l : List (ItemRow × Nat)} {result : SyncResult}
    {s : Site} (h : Due saved (x :: l) result s) :
    (syncItem py (markedAt x.2) sink result x.1).wp (Seen py) (fun _ => True) (Due saved l)
      (fun _ _ => True) s := by
  have herr (e : PyExc) (s : Site) :
      (if e.isException then return { result with errors := result.errors + 1 } else .throw e :
        ServiceM SyncResult).wp (Seen py) (fun _ => True) (Due saved l) (fun _ _ => True) s := by
    split
    case isTrue  => exact ⟨trivial, nofun⟩
    case isFalse => exact ⟨trivial, trivial⟩
  rw [syncItem_eq, processItem_eq]
  apply Program.wp.tryCatch
  cases hr : fromDict py x.1.toDict
  case error e => exact ⟨trivial, herr e s⟩
  case ok record =>
    have hid : record.receivingId = x.1.receivingId := by rw [(fromDict_row_iff.mp hr).2]; rfl
    simp only [Program.ofExcept_ok, Program.pure_bind]
    refine .bind (.bind (.perform trivial (fun u s₁ h₁ => ⟨trivial, ?_⟩)
      fun e s₁ _ => ⟨trivial, herr e s₁⟩))
    refine .bind (.perform trivial (fun u s₂ h₂ => ⟨trivial, ?_⟩)
      fun e s₂ _ => ⟨trivial, herr e s₂⟩)
    have hp : x.1.receivingId ∈ s₂.shop.posted := hid ▸ h₂.grows.posted h₁.delivery
    have hd := (h.seen h₁).seen h₂
    refine ⟨trivial, ?_⟩
    dsimp only [counted]
    split
    all_goals exact ⟨trivial, hd.tail hp rfl⟩

-- A pass that has counted no error leaves nothing behind of what had been saved before it.
theorem syncPending_due {s : Site} :
    (syncPending py markedAt sink).wp (Seen py) (fun _ => True)
      (fun result s' => result.errors = 0 → ∀ t ∈ s.shop.saved, t.receivingId ∈ s'.shop.posted)
      (fun _ _ => True) s := by
  rw [syncPending_eq]
  refine .bind (.perform trivial (fun rows s₁ h₁ => ⟨trivial, .bind ?_⟩) fun _ _ _ =>
    ⟨trivial, trivial⟩)
  have hd : Due s.shop.saved rows.zipIdx ⟨rows.length, 0, 0, 0⟩ s₁ := by
    intro _ t ht
    refine (h₁.pending ht).imp_right fun ⟨row, hr, he⟩ => ?_
    have ⟨i, hi, hrow⟩ := List.getElem_of_mem hr
    exact ⟨(row, i), by simp [List.mem_zipIdx_iff_getElem?, ← hrow], he⟩
  have hloop := Program.wp.foldlM (E := Seen py) (I := fun _ => True) (X := fun _ _ => True)
    (f := fun result (x : ItemRow × Nat) => syncItem py (markedAt x.2) sink result x.1)
    (J := Due s.shop.saved) (fun x l result s => syncItem_due) hd fun _ _ _ => trivial
  refine hloop.mono (fun result s _ hd => ?_) fun _ _ _ _ => trivial
  unfold SyncResult.verdict
  split
  case isTrue  => exact ⟨trivial, trivial⟩
  case isFalse => exact ⟨trivial, fun he t ht => (hd he t ht).resolve_right (by simp)⟩

end Pass

-- ### Passes that report

-- A process that tells what it has counted in the end, and one that does not.
def reporting (p : ServiceM SyncResult) : SiteM (Option SyncResult) :=
  p.refine calls >>= fun result => .pure (some result)

def silent (p : SiteM Unit) : SiteM (Option SyncResult) :=
  p >>= fun _ => .pure none

inductive Reports (py : PyStd) : SiteM (Option SyncResult) → Prop
  | sync (markedAt : Nat → String) (sink : SinkId) :
      Reports py (reporting (syncPending py markedAt sink))
  | job {p : SiteM Unit} : Job py p → Reports py (silent p)

theorem Reports.follows {p : SiteM (Option SyncResult)} {F : Set Fact} (h : Reports py p) :
    (discipline py).Follows p F := by
  cases h
  case sync =>
    exact (Program.Discipline.Follows.refine follows_calls follows_sync).bind fun _ => trivial
  case job h => exact h.follows.bind fun _ => trivial

theorem reporting_due {markedAt : Nat → String} {sink : SinkId} {s : Site} :
    (reporting (syncPending py markedAt sink)).wp (Peers py) (fun _ => True)
      (fun report s' => ∀ result, report = some result → result.errors = 0 →
        ∀ t ∈ s.shop.saved, t.receivingId ∈ s'.shop.posted) (fun _ _ => True) s := by
  have hpass : ((syncPending py markedAt sink).refine calls).wp (Peers py)
      (fun _ => True)
      (fun result s' => result.errors = 0 → ∀ t ∈ s.shop.saved, t.receivingId ∈ s'.shop.posted)
      (fun _ _ => True) s :=
    .refine syncPending_due
  refine .bind (hpass.mono (fun result s' _ h => ⟨trivial, ?_⟩) fun _ _ _ _ => trivial)
  rintro _ ⟨rfl⟩
  exact h

section Runs

variable {ι : Type} [DecidableEq ι] {P₀ P Q : ι → SiteM (Option SyncResult)} {s₀ s s' : Site}
variable {markedAt : Nat → String} {sink : SinkId}

theorem sane_of_steps (hs : s₀.IsFresh) (hn : s₀.shop.saved = []) (hP : ∀ j, Reports py (P₀ j))
    (h : Program.Pool.Steps Answers (s₀, P₀) (s, P)) :
    s.Sane py ∧ ∀ j, (discipline py).Follows (P j) {f | Holds f s} :=
  sane_sound.steps h (hs.sane hn) fun j => (hP j).follows

-- Whatever has happened before a pass, and whatever happens beside it: if it comes to its end and
-- has counted no error, then all records have been posted that had been saved when it started.
theorem posted_of_clean_pass (hs : s₀.IsFresh) (hn : s₀.shop.saved = [])
    (hP : ∀ j, Reports py (P₀ j)) (h₀ : Program.Pool.Steps Answers (s₀, P₀) (s, P)) {i : ι}
    (hi : P i = reporting (syncPending py markedAt sink))
    (h : Program.Pool.Steps Answers (s, P) (s', Q)) {result : SyncResult}
    (hr : Q i = .pure (some result)) (he : result.errors = 0) :
    ∀ t ∈ s.shop.saved, t.receivingId ∈ s'.shop.posted := by
  have ⟨hsane, hfollows⟩ := sane_of_steps hs hn hP h₀
  have ⟨s₁, hview, hgrows⟩ := Program.Pool.Steps.view (R := fun s s' => s.shop.Grows s'.shop)
    (fun s => .refl s.shop) .trans
    (fun h => (kept_step h.2.1.kept h.2.2 h.1).2) (sane_sound.guarded h hsane hfollows) i
  rw [hi, hr] at hview
  exact fun t ht => hgrows.posted (reporting_due.returns hview result rfl he t ht)

end Runs

-- A scan whose post is carried out and whose response gets lost, and a pass that posts once more.
def reports : Nat → SiteM (Option SyncResult)
  | 0 => silent (service Scan.sample.program)
  | 1 => reporting (syncPending .ascii (fun _ => sampleTime) 0)
  | _ => silent (people 0)

theorem reports_reports (i : Nat) : Reports .ascii (reports i) := by
  match i with
  | 0     => exact .job (.scan _)
  | 1     => exact .sync _ _
  | i + 2 => exact .job (.people 0)

-- The processes that are given have their turns.
def turns (is : List Nat) (c : Site × (Nat → SiteM (Option SyncResult))) :
    Option (Site × (Nat → SiteM (Option SyncResult))) :=
  Program.Pool.play (play losesFirst) (fun _ _ _ => true) is c

theorem posted_of_clean_pass_sample : ∃ s s' : Site, s.shop.saved.map (·.receivingId) =
    ["sha256:P1A"] ∧ ∀ t ∈ s.shop.saved, t.receivingId ∈ s'.shop.posted := by
  have hplayed : (turns (List.replicate 5 0) (fresh, reports)).bind (fun c =>
      (turns (List.replicate 5 1) c).map fun c' =>
        (c.1.shop.saved.map (·.receivingId), (c'.2 1).value)) =
      some (["sha256:P1A"], some (some ⟨1, 1, 0, 0⟩)) := by
    decide +kernel
  obtain ⟨⟨s, P⟩, h₀, h⟩ := Option.bind_eq_some_iff.mp hplayed
  obtain ⟨⟨s', Q⟩, h₁, h⟩ := Option.map_eq_some_iff.mp h
  injection h with hsaved hvalue
  refine ⟨s, s', hsaved, ?_⟩
  exact posted_of_clean_pass isFresh_fresh rfl reports_reports
    ((Program.Pool.steps_play answers_play h₀).mono And.left)
    (Program.Pool.play_of_notMem h₀ (by decide))
    ((Program.Pool.steps_play answers_play h₁).mono And.left)
    (Program.eq_pure_of_value hvalue) rfl

end Site

namespace Shop

-- ### A pass in which nothing fails

def post (sink : SinkId) (id : String) (item : CreatedItem) (s : Shop) : Shop :=
  if id ∈ s.world.seen sink then s else (s.create sink id item).remember sink id

-- The surroundings in which no call fails and no response is lost.
def handle : Program.Handler Port PyExc Shop := fun
  | _, .emit sink record, s => (.ok (), s.post sink record.receivingId (emittedItem record))
  | _, .surfaceAttention sink record, s =>
    (.ok (), s.post sink record.receivingId (createItem .attention record "NEEDS ATTENTION"))
  | _, op, s =>
    let (r, world) := World.handle _ op s.world
    (r, { s with world, saved := s.saved ++ saves op r })

-- The item that is created for a record.
def itemOf (record : ReceivingRecord) : CreatedItem :=
  if record.matchStatus = .needsAttention then createItem .attention record "NEEDS ATTENTION"
  else emittedItem record

-- The shop after a pending row has been delivered and marked.
def deliver (markedAt : String) (sink : SinkId) (row : ItemRow) (s : Shop) : Shop :=
  let s := s.post sink row.receivingId (itemOf row.record)
  { s with world := { s.world with db := s.world.db.setEmitted markedAt row.receivingId } }

def deliverAll (markedAt : Nat → String) (sink : SinkId) (rows : List (ItemRow × Nat)) (s : Shop) :
    Shop :=
  rows.foldl (fun s x => s.deliver (markedAt x.2) sink x.1) s

section Deliver

variable {py : PyStd} {markedAt : Nat → String} {sink : SinkId} {row : ItemRow} {s : Shop}

@[simp]
theorem db_post {id : String} {item : CreatedItem} :
    (s.post sink id item).world.db = s.world.db := by
  unfold post
  split
  case isTrue  => rfl
  case isFalse => exact remember_db

@[simp]
theorem db_deliver {m : String} :
    (s.deliver m sink row).world.db = s.world.db.setEmitted m row.receivingId := by
  simp [deliver]

theorem posted_deliver {m : String} : (s.deliver m sink row).posted =
    s.posted ++ if row.receivingId ∈ s.world.seen sink then [] else [row.receivingId] := by
  have hposted (s : Shop) (db : Db) :
      { s with world := { s.world with db } }.posted = s.posted :=
    rfl
  simp only [deliver, hposted, post]
  split <;> simp

theorem mem_seen_deliver {m id : String} : id ∈ (s.deliver m sink row).world.seen sink ↔
    id = row.receivingId ∨ id ∈ s.world.seen sink := by
  simp only [deliver, post]
  split
  case isTrue h  => simp only [iff_or_self]; exact fun he => he ▸ h
  case isFalse h => simp [create, or_comm]

theorem run_delivery {record : ReceivingRecord} :
    handle _ (delivery sink record) s =
      (.ok (), s.post sink record.receivingId (itemOf record)) := by
  unfold delivery itemOf
  split <;> rfl

theorem run_markEmitted {m id : String} (h : (s.world.db.receivingItems.find id).isSome) :
    handle _ (.markEmitted m id) s =
      (.ok (), { s with world := { s.world with db := s.world.db.setEmitted m id } }) := by
  simp [handle, World.handle, Db.markEmitted_of_isSome h, World.transact, World.write, saves]

attribute [local irreducible] fromDict

theorem run_syncItem {m : String} {result : SyncResult} (ht : BlankOrIso py row.timestamp)
    (hf : (s.world.db.receivingItems.find row.receivingId).isSome) :
    (syncItem py m sink result row).run handle s =
      (.ok (result.count (.ok row.matchStatus)), s.deliver m sink row) := by
  have hitem : (processItem py m sink row.toDict).run handle s =
      (.ok row.matchStatus, s.deliver m sink row) := by
    rw [processItem_eq, fromDict_row ht]
    simp only [Program.ofExcept_ok, Program.pure_bind]
    rw [Program.run_bind_of_ok ((Program.run_perform _).trans run_delivery),
      Program.run_bind_of_ok ((Program.run_perform _).trans
        (run_markEmitted (by rw [db_post]; exact hf)))]
    rfl
  rw [syncItem_eq]
  apply Program.run_tryCatch_of_ok
  rw [Program.run_bind_of_ok hitem]
  cases hm : row.matchStatus <;> rfl

end Deliver

section DeliverAll

variable {py : PyStd} {markedAt : Nat → String} {sink : SinkId} {rows : List ItemRow} {i : Nat}

theorem deliverAll_cons {row : ItemRow} {s : Shop} :
    s.deliverAll markedAt sink ((row :: rows).zipIdx i) =
      (s.deliver (markedAt i) sink row).deliverAll markedAt sink (rows.zipIdx (i + 1)) :=
  rfl

theorem run_turns {s : Shop} {result : SyncResult}
    (ht : ∀ row ∈ rows, BlankOrIso py row.timestamp)
    (hf : ∀ row ∈ rows, (s.world.db.receivingItems.find row.receivingId).isSome) :
    ((rows.zipIdx i).foldlM
      (fun result (x : ItemRow × Nat) => syncItem py (markedAt x.2) sink result x.1) result).run
        handle s =
      (.ok (result.tally (rows.map fun row => (row, .ok row.matchStatus))),
        s.deliverAll markedAt sink (rows.zipIdx i)) := by
  induction rows generalizing s i result
  case nil => rfl
  case cons row rows ih =>
    rw [List.zipIdx_cons, List.foldlM_cons, Program.run_bind_of_ok
      (run_syncItem (ht row List.mem_cons_self) (hf row List.mem_cons_self)), ih]
    case ht => exact fun row hr => ht row (List.mem_cons_of_mem _ hr)
    case hf =>
      intro row hr
      rw [db_deliver, Db.find_setEmitted, Option.isSome_map]
      exact hf row (List.mem_cons_of_mem _ hr)
    rfl

theorem pending_deliverAll {s : Shop} :
    (s.deliverAll markedAt sink (rows.zipIdx i)).world.db.getPending =
      s.world.db.getPending.filter (fun row => row.receivingId ∉ rows.map (·.receivingId)) := by
  induction rows generalizing s i
  case nil => simp [deliverAll]
  case cons row rows ih =>
    rw [deliverAll_cons, ih, db_deliver, Db.getPending_setEmitted, List.filter_filter]
    exact List.filter_congr fun row' _ => by simp [Bool.and_comm]

-- The records that the adapter has not seen yet are posted, each of them once and in their order.
theorem posted_deliverAll {s : Shop} (hn : (rows.map (·.receivingId)).Nodup) :
    (s.deliverAll markedAt sink (rows.zipIdx i)).posted = s.posted ++
      (rows.map (·.receivingId)).filter (· ∉ s.world.seen sink) := by
  induction rows generalizing s i
  case nil => simp [deliverAll]
  case cons row rows ih =>
    have ⟨hrow, hn⟩ := List.nodup_cons.mp hn
    have hseen : (rows.map (·.receivingId)).filter
        (· ∉ (s.deliver (markedAt i) sink row).world.seen sink) =
        (rows.map (·.receivingId)).filter (· ∉ s.world.seen sink) :=
      List.filter_congr fun id hid => by
        have hne : id ≠ row.receivingId := by
          rintro rfl
          exact hrow hid
        simp [mem_seen_deliver, hne]
    rw [deliverAll_cons, ih hn, hseen, posted_deliver]
    by_cases h : row.receivingId ∈ s.world.seen sink <;> simp [h]

end DeliverAll
end Shop

namespace Site

variable {py : PyStd} {markedAt : Nat → String} {sink : SinkId}

-- What a pass comes to in which nothing fails: nothing is pending any more, what the adapter had
-- not seen was posted, each record once and in order, and so all that was ever saved is posted.
structure Settled (sink : SinkId) (s s' : Shop) (result : SyncResult) : Prop where
  processed : result.processed = s.world.db.getPending.length
  errors    : result.errors = 0
  pending   : s'.world.db.getPending = []
  posted    : s'.posted = s.posted ++
    (s.world.db.getPending.map (·.receivingId)).filter (· ∉ s.world.seen sink)
  saved     : ∀ t ∈ s.saved, t.receivingId ∈ s'.posted

theorem Sane.settles {s : Site} (h : s.Sane py) (markedAt : Nat → String) (sink : SinkId) :
    ∃ result s', (syncPending py markedAt sink).run Shop.handle s.shop = (.ok result, s') ∧
      Settled sink s.shop s' result := by
  have hmem {row : ItemRow} (hr : row ∈ s.shop.world.db.getPending) :
      s.shop.world.db.receivingItems.find row.receivingId = some row :=
    ItemRow.mem_iff_find.mp (List.mem_of_mem_filter hr)
  generalize hp : s.shop.world.db.getPending = pending at hmem
  have hn : (pending.map (·.receivingId)).Nodup := hp ▸ Db.nodup_getPending
  have hread : Shop.handle _ .getPending s.shop = (.ok pending, s.shop) := by
    simp [Shop.handle, World.handle, World.query, Shop.saves, hp]
  let result := SyncResult.tally ⟨pending.length, 0, 0, 0⟩
    (pending.map fun row => (row, .ok row.matchStatus))
  let s' := s.shop.deliverAll markedAt sink pending.zipIdx
  have hprocessed : result.processed = pending.length := SyncResult.processed_tally
  have herrors : result.errors = 0 := by
    simp [result, SyncResult.errors_tally, hasFailed, Except.isOk, Except.toBool]
  have hposted : s'.posted = _ := Shop.posted_deliverAll hn
  refine ⟨result, s', ?run, hprocessed.trans (by rw [hp]), herrors, ?pending, hp ▸ hposted, ?saved⟩
  case run =>
    rw [syncPending_eq, Program.run_bind_of_ok ((Program.run_perform _).trans hread),
      Program.run_bind_of_ok (Shop.run_turns
        (fun row hr => h.recorded.dated _ row (hmem hr))
        fun row hr => Option.isSome_iff_exists.mpr ⟨row, hmem hr⟩), Program.run_ofExcept]
    have hrate : ¬result.successRate < killThreshold := by
      rw [SyncResult.successRate_lt_iff (by omega)]
      omega
    exact Prod.ext (if_neg hrate) rfl
  case pending =>
    rw [Shop.pending_deliverAll, hp, List.filter_eq_nil_iff]
    intro row hr
    simpa using ⟨row, hr, rfl⟩
  case saved =>
    intro t ht
    rw [hposted]
    rcases h.posted_or_pending ht with ht | ⟨row, hr, hid⟩
    · exact List.mem_append.mpr (.inl ht)
    · by_cases hs : t.receivingId ∈ s.shop.world.seen sink
      case pos => exact List.mem_append.mpr (.inl (h.kept.shop.known sink _ hs))
      case neg =>
        refine List.mem_append.mpr (.inr (List.mem_filter.mpr ⟨?_, by simpa using hs⟩))
        exact hid ▸ List.mem_map_of_mem (hp ▸ hr)

-- The surroundings in which no call fails, and no response gets lost.
abbrev calm : Program.Handler SiteCall PyExc Site :=
  play fun _ => false

-- A call of a service comes to what it does where nothing gets lost and nobody comes in between.
theorem run_calls {β : Type} (op : Port β) (s : Site) :
    ((calls op).run calm s).1 = (Shop.handle β op s.shop).1 ∧
      ((calls op).run calm s).2.shop = (Shop.handle β op s.shop).2 := by
  have hpost (sink : SinkId) (id : String) (item : CreatedItem) :
      ((post sink id item).run calm s).1 = .ok () ∧
        ((post sink id item).run calm s).2.shop = s.shop.post sink id item := by
    by_cases hs : id ∈ s.shop.world.seen sink
    all_goals simp [post, Program.run_bind, play, playAdapter, Shop.post, hs]
  cases op
  case emit | surfaceAttention => exact hpost ..
  all_goals
    rw [calls_of_not_isSink rfl, Program.run_perform]
    exact ⟨rfl, rfl⟩

-- From wherever the processes have got to, with whatever has failed and got lost: one pass of any
-- adapter in which nothing fails is enough.
theorem sync_settles {ι : Type} [DecidableEq ι] {P Q : ι → SiteM Unit} {s₀ s : Site}
    (hs : s₀.IsFresh) (hn : s₀.shop.saved = []) (hP : ∀ i, Job py (P i))
    (h : Program.Pool.Steps Answers (s₀, P) (s, Q)) : ∃ result s',
      ((syncPending py markedAt sink).refine calls).run calm s = (.ok result, s') ∧
        Settled sink s.shop s'.shop result := by
  have hsane : s.Sane py := (sane_sound.steps h (hs.sane hn) fun i => (hP i).follows).1
  have ⟨result, shop, hrun, hsettled⟩ := hsane.settles markedAt sink
  have ⟨hr, hshop⟩ := Program.run_refine run_calls (syncPending py markedAt sink) s
  rw [hrun] at hr hshop
  exact ⟨result, _, Prod.ext hr rfl, hshop ▸ hsettled⟩

theorem sync_settles_sample : ∃ s : Site, s.shop.lost = [(0, "sha256:P1A")] ∧ ∃ result s',
    ((syncPending .ascii (fun _ => sampleTime) 0).refine calls).run calm s = (.ok result, s') ∧
      Settled 0 s.shop s'.shop result := by
  have hplayed : (Program.Pool.play (play losesFirst) (fun _ _ _ => true) (List.replicate 5 0)
      (fresh, jobs)).map (fun c => c.1.shop.lost) = some [(0, "sha256:P1A")] := by
    decide +kernel
  obtain ⟨⟨s, Q⟩, h, hlost⟩ := Option.map_eq_some_iff.mp hplayed
  exact ⟨s, hlost, sync_settles isFresh_fresh rfl job_jobs
    ((Program.Pool.steps_play answers_play h).mono And.left)⟩

end Site
end ReceivingApp
