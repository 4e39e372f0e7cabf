import ReceivingApp.Lib.BigStep
import ReceivingApp.Lib.Hoare
import ReceivingApp.Theorems.Runs
import ReceivingApp.Theorems.Serialization

open Interaction Relational

namespace ReceivingApp

variable {py : PyStd}

-- ### Units with an inventory_id

-- No unit lacks its inventory_id.
def Db.Identified (db : Db) : Prop :=
  ∀ row ∈ db.poInventory.rows, row.inventoryId ≠ none

-- The line items that a call stores.
def Port.items : ∀ {β : Type}, Port β → List LineItem
  | _, .upsertItems _ items | _, .replacePoItems _ items => items
  | _, _ => []

-- The exceptions of the repository and of the sink.
def PyExc.IsOutside (e : PyExc) : Prop :=
  e.cls = .repositoryError ∨ e.cls = .sinkError

section Calls

variable {now op : String} {item : LineItem} {items : List LineItem} {db db' : Db}
variable {t t' : Table PoRow.inventoryId}

theorem identified_insertItem (h : Db.insertItem op now t item = .ok t')
    (hi : item.inventoryId ≠ some none) (ht : ∀ row ∈ t.rows, row.inventoryId ≠ none) :
    ∀ row ∈ t'.rows, row.inventoryId ≠ none := by
  have ⟨new, hn, h⟩ := Except.bind_eq_ok.mp h
  cases h
  have hnew : new.inventoryId ≠ none := fun he => hi (he ▸ (Db.newRow_eq_ok hn).1)
  intro row hr
  rcases Table.mem_upsert hr with ⟨rfl, _⟩ | ⟨row', hr', _, rfl⟩ | ⟨hr, _⟩ | ⟨hr, _⟩
  · exact hnew
  · exact ht row' hr'
  · exact ht row hr
  · exact ht row hr

theorem identified_foldlM (h : items.foldlM (Db.insertItem op now) t = .ok t')
    (hi : ∀ item ∈ items, item.inventoryId ≠ some none)
    (ht : ∀ row ∈ t.rows, row.inventoryId ≠ none) : ∀ row ∈ t'.rows, row.inventoryId ≠ none := by
  induction items generalizing t
  case nil =>
    cases h
    exact ht
  case cons item items ih =>
    rw [List.foldlM_cons] at h
    have ⟨t₁, h₁, h⟩ := Except.bind_eq_ok.mp h
    have ⟨hitem, hitems⟩ := List.forall_mem_cons.mp hi
    exact ih h hitems (identified_insertItem h₁ hitem ht)

theorem identified_upsertItems (h : db.upsertItems now items = .ok db')
    (hi : ∀ item ∈ items, item.inventoryId ≠ some none) (hd : db.Identified) :
    db'.Identified := by
  have ⟨t, hf, h⟩ := Except.bind_eq_ok.mp h
  cases h
  exact identified_foldlM hf hi hd

theorem identified_empty :
    ∀ row ∈ (.empty : Table PoRow.inventoryId).rows, row.inventoryId ≠ none :=
  fun _ hr => absurd hr List.not_mem_nil

theorem identified_replacePoItems (h : db.replacePoItems now items = .ok db')
    (hi : ∀ item ∈ items, item.inventoryId ≠ some none) : db'.Identified := by
  have ⟨t, hf, h⟩ := Except.bind_eq_ok.mp h
  cases h
  exact identified_foldlM hf hi identified_empty

theorem identified_claim {inventoryId : Option String} {claimedAt : String} (hd : db.Identified) :
    (db.claim inventoryId claimedAt).Identified := by
  intro row hr
  simp only [Db.claim, Table.mem_modify] at hr
  obtain ⟨row', hr', rfl⟩ := hr
  split
  case isTrue  => exact hd row' hr'
  case isFalse => exact hd row' hr'

variable {β : Type} {call : Port β} {x : Except PyExc β} {w w' : World}

theorem identified_transact {y : Except PyExc Db} (hw : w.db.Identified)
    (h : ∀ db, y = .ok db → db.Identified) : (w.transact y).2.db.Identified := by
  cases y
  case ok db => exact h db rfl
  case error => exact hw

theorem identified_of_env (hop : ∀ item ∈ call.items, item.inventoryId ≠ some none)
    (h : World.env β call w x w') (hw : w.db.Identified) : w'.db.Identified := by
  cases x
  case error => exact World.env_error h ▸ hw
  case ok b =>
    have he : w' = (World.handle β call w).2 := (congrArg Prod.snd (World.env_ok_iff.mp h)).symm
    subst he
    cases call
    case upsertItems =>
      exact identified_transact hw fun _ hu => identified_upsertItems hu hop hw
    case replacePoItems =>
      exact identified_transact hw fun _ hr => identified_replacePoItems hr hop
    case markEmitted =>
      exact identified_transact hw fun _ hm => Db.markEmitted_eq_ok hm ▸ hw
    case clearPoItems     => exact identified_empty
    case claim            => exact identified_claim hw
    case claimAndSave     => exact identified_claim hw
    case emit sink r      =>
      change (w.emit sink r).db.Identified
      rwa [World.emit_db]
    case surfaceAttention sink r =>
      change (w.surfaceAttention sink r).db.Identified
      rwa [World.surfaceAttention_db]
    all_goals exact hw

-- A call that loads nothing raises what comes from outside.
theorem isOutside_of_env {e : PyExc} (hop : call.items = [])
    (h : World.env β call w (.error e) w') : e.IsOutside := by
  generalize hx : Except.error e = x at h
  cases h
  case fault hf =>
    cases hx
    cases hf
    case repository       => exact .inl rfl
    case emit             => exact .inr rfl
    case surfaceAttention => exact .inr rfl
  case done =>
    cases call
    case upsertItems now items | replacePoItems now items =>
      cases (show items = [] from hop)
      cases hx
    case markEmitted now id =>
      change _ = (w.transact (w.db.markEmitted now id)).1 at hx
      unfold Db.markEmitted at hx
      split at hx <;> cases hx
      exact .inl rfl
    all_goals cases hx

end Calls

-- ### Scans

namespace Scan

variable {s : Scan py} {w w' : World}

-- Every row that a scan may resolve to can be written as a record.
theorem exists_id_of_target {row : PoRow} (hw : w.db.Identified) (h : s.target w.db = some row) :
    ∃ id, row.inventoryId = some id :=
  Option.ne_none_iff_exists'.mp <| hw row (Db.mem_unclaimedForPo.mp (mem_of_resolveRow h)).1

-- What a part of a scan has to be like: it keeps the inventory_ids and raises only what comes from
-- outside.
abbrev Sound {α : Type} (p : ServiceM α) (w : World) : Prop :=
  p.wp World.env (·.db.Identified) (fun _ w => w.db.Identified) (fun e _ => e.IsOutside) w

theorem sound_perform {β : Type} {call : Port β} (hop : call.items = []) (hw : w.db.Identified) :
    Sound (.perform call) w := by
  have hk {x w'} (he : World.env β call w x w') : w'.db.Identified :=
    identified_of_env (by simp [hop]) he hw
  exact .perform hw (fun _ _ he => ⟨hk he, hk he⟩)
    (fun _ _ he => ⟨hk he, isOutside_of_env hop he⟩)

theorem Sound.bind {α β : Type} {p : ServiceM α} {f : α → ServiceM β} (hp : Sound p w)
    (hf : ∀ a w, w.db.Identified → Sound (f a) w) : Sound (p >>= f) w :=
  Program.wp.bind <| hp.mono (fun a w _ hw => hf a w hw) (fun _ _ _ he => he)

theorem sound_emitOnce (clock : Clock py) (sink : SinkId) (r : ReceivingRecord)
    (hw : w.db.Identified) : Sound (emitOnce clock sink r) w := by
  have hmark {w : World} (hw : w.db.Identified) :
      Sound (do Program.perform (.markEmitted clock.markedAt r.receivingId); .pure r) w :=
    (sound_perform rfl hw).bind fun _ _ hw => ⟨hw, hw⟩
  refine (sound_perform rfl hw).bind fun emitted w hw => ?_
  split
  case isTrue => exact ⟨hw, hw⟩
  case isFalse =>
    split
    case isTrue  => exact (sound_perform rfl hw).bind fun _ _ hw => hmark hw
    case isFalse => exact (sound_perform rfl hw).bind fun _ _ hw => hmark hw

theorem sound_miss (hw : w.db.Identified) : Sound s.miss w :=
  (sound_perform rfl hw).bind fun _ _ hw => sound_emitOnce _ _ _ hw

theorem sound_program (hw : w.db.Identified) : Sound s.program w := by
  rw [program_eq]
  refine Program.wp.bind <| .perform hw (fun candidates w' he => ?_) fun e w' he => ?_
  case refine_2 => exact ⟨World.env_error he ▸ hw, isOutside_of_env rfl he⟩
  case refine_1 =>
    cases World.env_ok_iff.mp he
    refine ⟨hw, ?_⟩
    cases ht : s.target w.db
    case some row =>
      have ⟨id, hid⟩ := exists_id_of_target hw ht
      rw [afterRead_of_some ht hid]
      exact (sound_perform rfl hw).bind fun _ _ hw => sound_emitOnce _ _ _ hw
    case none =>
      by_cases hb : s.serial = ""
      case pos =>
        rw [afterRead_of_blank ht hb]
        exact sound_miss hw
      case neg =>
        rw [afterRead_of_none ht hb]
        refine (sound_perform rfl hw).bind fun dup w hw => ?_
        cases dup
        case none     => exact sound_miss hw
        case some dup => exact ⟨hw, hw⟩

-- A scan that nothing disturbs completes.
theorem exists_completes (s : Scan py) (hw : w.db.Identified) : ∃ w' r, s.Completes w w' r := by
  cases ht : s.target w.db
  case some row =>
    have ⟨id, hid⟩ := exists_id_of_target hw ht
    exact ⟨_, _, .saved (.claim ht hid)⟩
  case none =>
    cases hd : s.duplicate w.db
    case some dup => exact ⟨_, _, .alreadyScanned ht hd⟩
    case none     => exact ⟨_, _, .saved (.miss ht hd)⟩

theorem Completes.timestamp_eq {r : ReceivingRecord} (h : s.Completes w w' r) :
    r.timestamp = s.clock.timestamp := by
  cases h
  case saved hs       => cases hs <;> rfl
  case alreadyScanned => rfl

theorem Completes.matchStatus_mem {r : ReceivingRecord} (h : s.Completes w w' r) :
    r.matchStatus ∈ [MatchStatus.received, .noMatch, .alreadyScanned] := by
  cases h
  case saved hs =>
    cases hs
    case claim => exact List.mem_cons_self
    case miss  => exact List.mem_cons_of_mem _ List.mem_cons_self
  case alreadyScanned => exact List.mem_cons_of_mem _ <| List.mem_cons_of_mem _ List.mem_cons_self

end Scan

-- ### Runs

-- The calls that the repository is used with.
inductive StationCall (py : PyStd)
  | upsertItems (now : String) (items : List LineItem)
  | replacePoItems (now : String) (items : List LineItem)
  | saveBarcodeMapping (now rawBarcode modelNumber : String) (fuzzyScore : PyFloat)
      (source : String)
  | processScan (s : Scan py)

namespace StationCall

def program : StationCall py → ServiceM Unit
  | upsertItems now items    => .perform (.upsertItems now items)
  | replacePoItems now items => .perform (.replacePoItems now items)
  | saveBarcodeMapping now raw model score source =>
    .perform (.saveBarcodeMapping now raw model score source)
  | processScan s => s.program >>= fun _ => .pure ()

-- A call may be stopped anywhere, by a fault or by a crash.
def Step (w : World) (c : StationCall py) (w' : World) : Prop :=
  ∃ q, Program.Steps World.env w c.program w' q

-- No line item has NULL for its inventory_id. The optional fields may be NULL.
def Identifies : StationCall py → Prop
  | upsertItems _ items | replacePoItems _ items => ∀ item ∈ items, item.inventoryId ≠ some none
  | _ => True

theorem identified_of_step {c : StationCall py} {w w' : World} (h : Step w c w')
    (hc : c.Identifies) (hw : w.db.Identified) : w'.db.Identified := by
  have ⟨q, hs⟩ := h
  have hload (call : Port Unit) (hi : ∀ item ∈ call.items, item.inventoryId ≠ some none) :
      (Program.perform call : ServiceM Unit).wp World.env (·.db.Identified) (fun _ _ => True)
        (fun _ _ => True) w :=
    .perform hw (fun _ _ he => ⟨identified_of_env hi he hw, trivial⟩)
      (fun _ _ he => ⟨identified_of_env hi he hw, trivial⟩)
  cases c
  case upsertItems now items    => exact (hload (.upsertItems now items) hc).invariant hs
  case replacePoItems now items => exact (hload (.replacePoItems now items) hc).invariant hs
  case saveBarcodeMapping now raw model score source =>
    have hi : ∀ item ∈ ([] : List LineItem), item.inventoryId ≠ some none :=
      fun _ h => absurd h List.not_mem_nil
    exact (hload (.saveBarcodeMapping now raw model score source) hi).invariant hs
  case processScan s =>
    have hend : Scan.Sound (s.program >>= fun _ => .pure ()) w :=
      (Scan.sound_program hw).bind fun _ _ hw => ⟨hw, hw⟩
    exact hend.invariant hs

theorem identified_of_trace {w w' : World} {cs : List (StationCall py)}
    (h : Trace Step w cs w') (hc : ∀ c ∈ cs, c.Identifies) (hw : w.db.Identified) :
    w'.db.Identified := by
  induction h
  case nil => exact hw
  case cons hs _ ih =>
    have ⟨hc, hcs⟩ := List.forall_mem_cons.mp hc
    exact ih hcs (identified_of_step hs hc hw)

end StationCall

def StationCall.after (c : StationCall py) (w : World) : World :=
  (c.program.run World.handle w).2

theorem StationCall.step_after (c : StationCall py) (w : World) : Step w c (c.after w) :=
  ⟨_, Program.steps_run (fun _ op s => .done op s) _ _⟩

-- In every reachable state a scan raises only what comes from the repository or the sink, and where
-- nothing does it returns a valid record.
theorem processScan_accepts_own_records {w₀ w : World} {cs : List (StationCall py)}
    (h₀ : w₀.db = .empty) (h : Trace StationCall.Step w₀ cs w) (hc : ∀ c ∈ cs, c.Identifies)
    (s : Scan py) :
    (∀ e w', Program.Ends World.env w s.program w' (.error e) →
      e.cls = .repositoryError ∨ e.cls = .sinkError) ∧
    ∃ r w', s.program.run World.handle w = (.ok r, w') ∧
      runValidateRecord py (toDict r) = .ok [] ∧
      r.matchStatus ∈ [MatchStatus.received, .noMatch, .alreadyScanned] := by
  have hempty : w₀.db.Identified := by
    rw [h₀]
    exact fun _ h => absurd h List.not_mem_nil
  have hw : w.db.Identified := StationCall.identified_of_trace h hc hempty
  refine ⟨fun e w' he => (Scan.sound_program hw).raises he, ?_⟩
  have ⟨w', r, hr⟩ := s.exists_completes hw
  refine ⟨r, w', Scan.run_of_completes hr, ?_, hr.matchStatus_mem⟩
  exact runValidateRecord_toDict (.inr (hr.timestamp_eq ▸ s.clock.timestamp_iso))

-- A unit whose optional columns are NULL is scanned, and is then scanned again.
theorem processScan_accepts_own_records_sample :
    let load := @StationCall.upsertItems .ascii sampleTime [.unit "1" "P" "A"]
    let w := (StationCall.processScan .sample).after (load.after .init)
    (∀ e w', Program.Ends World.env w Scan.sample.program w' (.error e) →
      e.cls = .repositoryError ∨ e.cls = .sinkError) ∧
    ∃ r w', Scan.sample.program.run World.handle w = (.ok r, w') ∧
      runValidateRecord .ascii (toDict r) = .ok [] ∧
      r.matchStatus ∈ [MatchStatus.received, .noMatch, .alreadyScanned] := by
  intro load w
  have htrace : Trace StationCall.Step World.init [load, .processScan .sample] w :=
    .cons (load.step_after _) (.single (StationCall.step_after _ _))
  refine processScan_accepts_own_records rfl htrace ?_ .sample
  rintro c hc
  rcases List.mem_pair.mp hc with rfl | rfl
  case inl => simp [load, StationCall.Identifies, LineItem.unit]
  case inr => trivial

end ReceivingApp
