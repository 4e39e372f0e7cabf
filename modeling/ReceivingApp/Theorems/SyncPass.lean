import Mathlib.Algebra.Order.Field.Rat
import Mathlib.Tactic.Linarith
import ReceivingApp.Adapters.World
import ReceivingApp.Lib.BigStep
import ReceivingApp.Theorems.Persistence

open Interaction Program

namespace ReceivingApp

variable {py : PyStd} {sink : SinkId} {E : Program.Env Port PyExc World} {w w' : World}

-- ### Surroundings of a pass

-- What a pass relies on: the database answers as it is, a mark that raises leaves it alone, a sink
-- of any kind does not touch it, and what both raise is caught by `except Exception`.
structure Surrounds (E : Program.Env Port PyExc World) : Prop where
  pending     : ∀ {w w' rows}, E _ .getPending w (.ok rows) w' →
    rows = w.db.getPending ∧ w'.db = w.db
  sink        : ∀ {β} {op : Port β} {w x w'}, op.isSink → E β op w x w' → w'.db = w.db
  sink_raises : ∀ {β} {op : Port β} {w e w'}, op.isSink → E β op w (.error e) w' → e.isException
  mark        : ∀ {now id w u w'}, E _ (.markEmitted now id) w (.ok u) w' →
    w.db.markEmitted now id = .ok w'.db
  mark_raises : ∀ {now id w e w'}, E _ (.markEmitted now id) w (.error e) w' →
    w'.db = w.db ∧ e.isException

namespace World

theorem transact_eq_ok {x : Except PyExc Db} {u : Unit} (h : w.transact x = (.ok u, w')) :
    x = .ok w'.db := by
  cases x <;> cases h
  rfl

theorem isException_of_fault {β : Type} {op : Port β} {e : PyExc} (h : Fault β op w e) :
    e.isException := by
  cases h <;> rfl

theorem isException_of_markEmitted {now id : String} {e : PyExc}
    (h : (handle _ (.markEmitted now id) w).1 = .error e) : e.isException := by
  simp only [handle, Db.markEmitted] at h
  split at h <;> cases h
  rfl

theorem env_surrounds : Surrounds env where
  pending h := by
    cases env_ok_iff.mp h
    exact ⟨rfl, rfl⟩
  sink {β op w x w'} hop h := by
    cases h
    case fault => rfl
    case done =>
      cases op
      case emit             => exact emit_db
      case surfaceAttention => exact surfaceAttention_db
      all_goals cases hop
  sink_raises {β op w e w'} hop h := by
    generalize hr : Except.error e = r at h
    cases h
    case fault hf => cases hr; exact isException_of_fault hf
    case done =>
      cases op
      case emit | surfaceAttention => cases hr
      all_goals cases hop
  mark h := transact_eq_ok (env_ok_iff.mp h)
  mark_raises {now id w e w'} h := by
    refine ⟨congrArg World.db (env_error h), ?_⟩
    generalize hr : Except.error e = r at h
    cases h
    case fault hf => cases hr; exact isException_of_fault hf
    case done     => exact isException_of_markEmitted hr.symm

end World

-- ### One item

-- The call that delivers a record.
def delivery (sink : SinkId) (record : ReceivingRecord) : Port Unit :=
  if record.matchStatus = .needsAttention then .surfaceAttention sink record
  else .emit sink record

-- What the attempt of an item can come to: it is emitted, or raises at one of its three steps.
inductive Handled (E : Program.Env Port PyExc World) (py : PyStd) (markedAt : String)
    (sink : SinkId) (row : ItemRow) (w : World) : Except PyExc MatchStatus → World → Prop
  | invalid {e : PyExc} :
      fromDict py row.toDict = .error e → Handled E py markedAt sink row w (.error e) w
  | rejected {r : ReceivingRecord} {e : PyExc} {w' : World} :
      fromDict py row.toDict = .ok r → E _ (delivery sink r) w (.error e) w' →
      Handled E py markedAt sink row w (.error e) w'
  | unmarked {r : ReceivingRecord} {e : PyExc} {u : Unit} {w₁ w' : World} :
      fromDict py row.toDict = .ok r → E _ (delivery sink r) w (.ok u) w₁ →
      E _ (.markEmitted markedAt r.receivingId) w₁ (.error e) w' →
      Handled E py markedAt sink row w (.error e) w'
  | emitted {r : ReceivingRecord} {u u' : Unit} {w₁ w' : World} :
      fromDict py row.toDict = .ok r → E _ (delivery sink r) w (.ok u) w₁ →
      E _ (.markEmitted markedAt r.receivingId) w₁ (.ok u') w' →
      Handled E py markedAt sink row w (.ok r.matchStatus) w'

section Item

variable {markedAt : String} {row : ItemRow} {x : Except PyExc MatchStatus}

theorem isSink_delivery (r : ReceivingRecord) : (delivery sink r).isSink := by
  unfold delivery
  split <;> rfl

theorem processItem_eq {item : Dict} :
    processItem py markedAt sink item = (do
      let record ← .ofExcept (fromDict py item)
      .perform (delivery sink record)
      .perform (.markEmitted markedAt record.receivingId)
      return record.matchStatus) := by
  unfold processItem
  congr
  funext record
  by_cases h : record.matchStatus = .needsAttention <;> simp [delivery, h]

theorem ends_processItem_iff :
    Ends E w (processItem py markedAt sink row.toDict) w' x ↔
      Handled E py markedAt sink row w x w' := by
  rw [processItem_eq]
  simp only [ends_bind_iff, ends_ofExcept_iff, ends_perform_iff, pure_eq, ends_pure_iff]
  constructor
  case mp =>
    rintro (⟨r, _, ⟨rfl, hr⟩, ⟨u, w₁, hd, ⟨u', w₂, hm, rfl, rfl⟩ | ⟨e, hm, rfl⟩⟩ | ⟨e, hd, rfl⟩⟩ |
      ⟨e, ⟨rfl, hr⟩, rfl⟩)
    · exact .emitted hr.symm hd hm
    · exact .unmarked hr.symm hd hm
    · exact .rejected hr.symm hd
    · exact .invalid hr.symm
  case mpr =>
    intro h
    cases h
    case invalid e hr         => exact .inr ⟨e, ⟨rfl, hr.symm⟩, rfl⟩
    case rejected r e hr hd   => exact .inl ⟨r, w, ⟨rfl, hr.symm⟩, .inr ⟨e, hd, rfl⟩⟩
    case unmarked hr hd hm    =>
      exact .inl ⟨_, w, ⟨rfl, hr.symm⟩, .inl ⟨_, _, hd, .inr ⟨_, hm, rfl⟩⟩⟩
    case emitted hr hd hm     =>
      exact .inl ⟨_, w, ⟨rfl, hr.symm⟩, .inl ⟨_, _, hd, .inl ⟨_, _, hm, rfl, rfl⟩⟩⟩

theorem Handled.isException (hE : Surrounds E) {e : PyExc}
    (h : Handled E py markedAt sink row w (.error e) w') : e.isException := by
  cases h
  case invalid hr  => simp [PyExc.isException, cls_of_fromDict hr]
  case rejected hd => exact hE.sink_raises (isSink_delivery _) hd
  case unmarked hm => exact (hE.mark_raises hm).2

-- The counters after one more item.
def SyncResult.count (result : SyncResult) : Except PyExc MatchStatus → SyncResult
  | .ok .received => { result with received := result.received + 1 }
  | .ok _         => { result with noMatch := result.noMatch + 1 }
  | .error _      => { result with errors := result.errors + 1 }

-- What the loop counts an item that was emitted as.
def counted (result : SyncResult) (status : MatchStatus) : ServiceM SyncResult :=
  if status = .received then return { result with received := result.received + 1 }
  else return { result with noMatch := result.noMatch + 1 }

theorem syncItem_eq {result : SyncResult} :
    syncItem py markedAt sink result row =
      Program.tryCatch (processItem py markedAt sink row.toDict >>= counted result) (fun e =>
        if e.isException then return { result with errors := result.errors + 1 } else .throw e) :=
  rfl

theorem ends_counted_iff {result : SyncResult} {status : MatchStatus}
    {y : Except PyExc SyncResult} :
    Ends E w (counted result status) w' y ↔ w' = w ∧ y = .ok (result.count (.ok status)) := by
  cases status <;> simp [counted, ends_pure_iff, SyncResult.count]

-- A turn of the loop attempts its item and never raises.
theorem ends_syncItem_iff (hE : Surrounds E) {result : SyncResult} {y : Except PyExc SyncResult} :
    Ends E w (syncItem py markedAt sink result row) w' y ↔
      ∃ x, Handled E py markedAt sink row w x w' ∧ y = .ok (result.count x) := by
  simp only [syncItem_eq, ends_tryCatch_iff, ends_bind_iff, ends_processItem_iff, ends_counted_iff]
  constructor
  case mp =>
    rintro (⟨a, ⟨status, _, h, rfl, ha⟩ | ⟨e, _, ha⟩, rfl⟩ |
      ⟨e, w₁, ⟨_, _, _, _, he⟩ | ⟨e', h, he⟩, hr⟩)
    · exact ⟨.ok status, h, ha⟩
    · cases ha
    · cases he
    · cases he
      rw [if_pos (h.isException hE), pure_eq, ends_pure_iff] at hr
      exact ⟨.error e, hr.1 ▸ h, hr.2⟩
  case mpr =>
    rintro ⟨x, h, rfl⟩
    cases x
    case ok status => exact .inl ⟨_, .inl ⟨status, w', h, rfl, rfl⟩, rfl⟩
    case error e =>
      refine .inr ⟨e, w', .inr ⟨e, h, rfl⟩, ?_⟩
      rw [if_pos (h.isException hE), pure_eq, ends_pure_iff]
      exact ⟨rfl, rfl⟩

end Item

-- ### The pass

-- The attempts of a list of items, each once and in order, with what they come to. The item at
-- position `i` of the pass is marked at the time `markedAt i`.
inductive Pass (E : Program.Env Port PyExc World) (py : PyStd) (markedAt : Nat → String)
    (sink : SinkId) : Nat → List (ItemRow × Except PyExc MatchStatus) → World → World → Prop
  | nil {i : Nat} {w : World} : Pass E py markedAt sink i [] w w
  | cons {i : Nat} {row : ItemRow} {x : Except PyExc MatchStatus}
      {l : List (ItemRow × Except PyExc MatchStatus)} {w w₁ w₂ : World} :
      Handled E py (markedAt i) sink row w x w₁ → Pass E py markedAt sink (i + 1) l w₁ w₂ →
      Pass E py markedAt sink i ((row, x) :: l) w w₂

section Passes

variable {markedAt : Nat → String} {l : List (ItemRow × Except PyExc MatchStatus)} {i : Nat}

def SyncResult.tally (result : SyncResult) (l : List (ItemRow × Except PyExc MatchStatus)) :
    SyncResult :=
  l.foldl (fun result p => result.count p.2) result

theorem turns_syncItem_iff (hE : Surrounds E) {rows : List ItemRow} {result result' : SyncResult} :
    Turns E (fun result (x : ItemRow × Nat) => syncItem py (markedAt x.2) sink result x.1)
        (rows.zipIdx i) result w result' w' ↔
      ∃ l, l.map Prod.fst = rows ∧ Pass E py markedAt sink i l w w' ∧ result' = result.tally l := by
  induction rows generalizing i result w
  case nil =>
    constructor
    case mp  => rintro ⟨⟩; exact ⟨[], rfl, .nil, rfl⟩
    case mpr =>
      rintro ⟨l, hl, hp, rfl⟩
      cases List.map_eq_nil_iff.mp hl
      cases hp
      exact .nil
  case cons row rows ih =>
    rw [List.zipIdx_cons]
    constructor
    case mp =>
      rintro ⟨⟩
      case cons h ht =>
        have ⟨x, ha, hx⟩ := (ends_syncItem_iff hE).mp h
        cases hx
        have ⟨l, hl, hp, hr⟩ := ih.mp ht
        exact ⟨(row, x) :: l, by rw [List.map_cons, hl], .cons ha hp, hr⟩
    case mpr =>
      rintro ⟨l, hl, hp, rfl⟩
      cases hp
      case nil => cases hl
      case cons row' x l w₁ ha hp =>
        cases hl
        exact .cons ((ends_syncItem_iff hE).mpr ⟨x, ha, rfl⟩) (ih.mpr ⟨l, rfl, hp, rfl⟩)

def SyncResult.killError (py : PyStd) (result : SyncResult) : PyExc where
  cls := .syncKillError
  msg := s!"sync aborted — {py.percentFormat result.successRate} success rate below " ++
    s!"{py.percentFormat killThreshold} threshold; " ++
    s!"{result.errors} of {result.processed} failed"

-- What the pass returns or raises, from its counters.
def SyncResult.verdict (py : PyStd) (result : SyncResult) : Except PyExc SyncResult :=
  if result.successRate < killThreshold then .error (result.killError py) else .ok result

theorem syncPending_eq :
    syncPending py markedAt sink = (do
      let pending ← .perform .getPending
      let result ← pending.zipIdx.foldlM
        (fun result (x : ItemRow × Nat) => syncItem py (markedAt x.2) sink result x.1)
        ⟨pending.length, 0, 0, 0⟩
      .ofExcept (result.verdict py)) := by
  unfold syncPending SyncResult.verdict SyncResult.killError
  congr
  funext pending
  congr
  funext result
  by_cases h : result.successRate < killThreshold <;> simp [h]

-- A run of the pass, whichever way it ends, reads the pending rows and attempts all of them.
theorem ends_syncPending_iff (hE : Surrounds E) {x : Except PyExc SyncResult} :
    Ends E w (syncPending py markedAt sink) w' x ↔
      (∃ w₁ l, E _ .getPending w (.ok (l.map Prod.fst)) w₁ ∧ Pass E py markedAt sink 0 l w₁ w' ∧
        x = (SyncResult.tally ⟨l.length, 0, 0, 0⟩ l).verdict py) ∨
      ∃ e, E _ .getPending w (.error e) w' ∧ x = .error e := by
  have hv (result : SyncResult) (w₁ : World) :
      Ends E w₁ (Program.ofExcept (result.verdict py)) w' x ↔ w' = w₁ ∧ x = result.verdict py :=
    ends_ofExcept_iff
  have hloop (rows : List ItemRow) (w₁ w₂ : World) (y : Except PyExc SyncResult) :
      Ends E w₁ (rows.zipIdx.foldlM
        (fun result x => syncItem py (markedAt x.2) sink result x.1) ⟨rows.length, 0, 0, 0⟩) w₂ y ↔
        _ :=
    ends_foldlM_iff fun _ h => by
      have ⟨_, _, hx⟩ := (ends_syncItem_iff hE).mp h
      cases hx
  simp only [syncPending_eq, ends_bind_iff, ends_perform_iff, hloop, turns_syncItem_iff hE, hv]
  constructor
  case mp =>
    rintro (⟨rows, w₁, hp,
      ⟨result, w₂, ⟨_, ⟨l, rfl, hl, rfl⟩, hr⟩, rfl, rfl⟩ | ⟨e, ⟨_, _, he⟩, _⟩⟩ | ⟨e, hp, rfl⟩)
    · cases hr
      exact .inl ⟨w₁, l, hp, hl, by rw [List.length_map]⟩
    · cases he
    · exact .inr ⟨e, hp, rfl⟩
  case mpr =>
    rintro (⟨w₁, l, hp, hl, rfl⟩ | ⟨e, hp, rfl⟩)
    · refine .inl ⟨_, w₁, hp, .inl ⟨_, w', ⟨_, ⟨l, rfl, hl, rfl⟩, rfl⟩, rfl, ?_⟩⟩
      rw [List.length_map]
    · exact .inr ⟨e, hp, rfl⟩

-- ### What a pass leaves

def hasFailed (p : ItemRow × Except PyExc MatchStatus) : Bool :=
  !p.2.isOk

section Effects

variable {markedAt : String} {row : ItemRow}

theorem Handled.db_of_error (hE : Surrounds E) {e : PyExc}
    (h : Handled E py markedAt sink row w (.error e) w') : w'.db = w.db := by
  cases h
  case invalid        => rfl
  case rejected hd    => exact hE.sink (isSink_delivery _) hd
  case unmarked hd hm => exact (hE.mark_raises hm).1.trans (hE.sink (isSink_delivery _) hd)

theorem Handled.db_of_ok (hE : Surrounds E) {status : MatchStatus}
    (h : Handled E py markedAt sink row w (.ok status) w') :
    (w.db.receivingItems.find row.receivingId).isSome ∧
      w'.db = w.db.setEmitted markedAt row.receivingId := by
  cases h
  case emitted hr hd hm =>
    have hm := hE.mark hm
    rw [(fromDict_row_iff.mp hr).2, hE.sink (isSink_delivery _) hd] at hm
    exact ⟨Db.isSome_of_markEmitted hm, Db.markEmitted_eq_ok hm⟩

end Effects

-- The receiving_ids of the items that were emitted.
def emittedIds (l : List (ItemRow × Except PyExc MatchStatus)) : List String :=
  (l.filter (!hasFailed ·)).map (·.1.receivingId)

theorem emittedIds_cons_ok {row : ItemRow} {status : MatchStatus} :
    emittedIds ((row, .ok status) :: l) = row.receivingId :: emittedIds l :=
  rfl

theorem Pass.pending (hE : Surrounds E) (h : Pass E py markedAt sink i l w w') :
    w'.db.getPending = w.db.getPending.filter (fun row => row.receivingId ∉ emittedIds l) := by
  induction h
  case nil => simp [emittedIds]
  case cons row x l _ _ _ ha _ ih =>
    rw [ih]
    cases x
    case error => rw [ha.db_of_error hE]; rfl
    case ok =>
      rw [(ha.db_of_ok hE).2, Db.getPending_setEmitted, List.filter_filter]
      exact List.filter_congr fun row' _ => by simp [emittedIds_cons_ok, Bool.and_comm]

theorem Pass.marked (hE : Surrounds E) (h : Pass E py markedAt sink i l w w') {id : String} :
    w'.db.wasEmitted id ↔ w.db.wasEmitted id ∨ id ∈ emittedIds l := by
  induction h
  case nil => simp [emittedIds]
  case cons row x l _ _ _ ha _ ih =>
    rw [ih]
    cases x
    case error => rw [ha.db_of_error hE]; rfl
    case ok =>
      have ⟨hs, hdb⟩ := ha.db_of_ok hE
      rw [hdb, Db.wasEmitted_setEmitted hs, emittedIds_cons_ok, List.mem_cons, or_assoc,
        eq_comm (a := id)]

-- Of items with different receiving_ids, those that failed are the ones without a mark.
theorem filter_failed (hn : (l.map (·.1.receivingId)).Nodup) :
    (l.map Prod.fst).filter (fun row => row.receivingId ∉ emittedIds l) =
      (l.filter hasFailed).map Prod.fst := by
  rw [List.filter_map]
  refine congrArg _ (List.filter_congr fun p hp => ?_)
  have hm : p.1.receivingId ∈ emittedIds l ↔ hasFailed p = false := by
    simp only [emittedIds, List.mem_map, List.mem_filter]
    constructor
    case mp =>
      rintro ⟨q, ⟨hq, hf⟩, he⟩
      cases List.inj_on_of_nodup_map hn hq hp he
      simpa using hf
    case mpr => exact fun hf => ⟨p, ⟨hp, by simp [hf]⟩, rfl⟩
  cases hf : hasFailed p <;> simp [hm, hf]

-- ### The counters

theorem SyncResult.processed_tally {result : SyncResult} :
    (result.tally l).processed = result.processed := by
  unfold tally
  induction l generalizing result
  case nil => rfl
  case cons p l ih =>
    rw [List.foldl_cons, ih]
    rcases p with ⟨row, _ | status⟩
    case error => rfl
    case ok    => cases status <;> rfl

theorem SyncResult.errors_tally {result : SyncResult} :
    (result.tally l).errors = result.errors + l.countP hasFailed := by
  unfold tally
  induction l generalizing result
  case nil => rfl
  case cons p l ih =>
    rw [List.foldl_cons, ih, List.countP_cons]
    rcases p with ⟨row, _ | status⟩
    case error => simp [count, hasFailed, Except.isOk, Except.toBool]; omega
    case ok    => cases status <;> simp [count, hasFailed, Except.isOk, Except.toBool]

theorem SyncResult.sum_tally {result : SyncResult} :
    (result.tally l).received + (result.tally l).noMatch + (result.tally l).errors =
      result.received + result.noMatch + result.errors + l.length := by
  unfold tally
  induction l generalizing result
  case nil => rfl
  case cons p l ih =>
    rw [List.foldl_cons, ih, List.length_cons]
    rcases p with ⟨row, _ | status⟩
    case error => simp only [count]; omega
    case ok    => cases status <;> simp only [count] <;> omega

-- The threshold is crossed by more errors than half of the items.
theorem SyncResult.successRate_lt_iff {result : SyncResult}
    (h : result.errors ≤ result.processed) :
    result.successRate < killThreshold ↔ result.processed < 2 * result.errors := by
  unfold successRate killThreshold
  by_cases hp : 0 < result.processed
  case pos =>
    have hq : (0 : Rat) < result.processed := by exact_mod_cast hp
    rw [if_pos hp, div_lt_div_iff₀ hq two_pos, ← Nat.cast_lt (α := Rat)]
    push_cast
    constructor <;> intro h' <;> linarith
  case neg =>
    rw [if_neg hp]
    constructor
    case mp  => intro h'; norm_num at h'
    case mpr => intro h'; omega

-- ### The claim of the pass

-- A pass leaves its items to themselves, where `l` says what came of each of them: every pending
-- one is attempted, once and in order, those that did not fail are marked and no others, and what
-- the pass returns or raises follows from the number of failures.
structure Isolates (E : Program.Env Port PyExc World) (py : PyStd) (markedAt : Nat → String)
    (sink : SinkId) (l : List (ItemRow × Except PyExc MatchStatus)) (w w' : World)
    (x : Except PyExc SyncResult) : Prop where
  attempted : ∃ w₁, E _ .getPending w (.ok (l.map Prod.fst)) w₁ ∧
    Pass E py markedAt sink 0 l w₁ w'
  all       : l.map Prod.fst = w.db.getPending
  pending   : w'.db.getPending = (l.filter hasFailed).map Prod.fst
  marked    : ∀ id, w'.db.wasEmitted id ↔ w.db.wasEmitted id ∨ id ∈ emittedIds l
  counted   : ∃ result : SyncResult, result.processed = l.length ∧
    result.processed = result.received + result.noMatch + result.errors ∧
    result.errors = l.countP hasFailed ∧
    x = if l.length < 2 * l.countP hasFailed then .error (result.killError py) else .ok result

theorem counted_tally :
    let result := SyncResult.tally ⟨l.length, 0, 0, 0⟩ l
    result.processed = l.length ∧
      result.processed = result.received + result.noMatch + result.errors ∧
      result.errors = l.countP hasFailed ∧
      result.verdict py =
        if l.length < 2 * l.countP hasFailed then .error (result.killError py) else .ok result := by
  intro result
  have hp : result.processed = l.length := SyncResult.processed_tally
  have he : result.errors = l.countP hasFailed := by
    rw [SyncResult.errors_tally, Nat.zero_add]
  have hs : result.received + result.noMatch + result.errors = l.length :=
    SyncResult.sum_tally.trans (Nat.zero_add _)
  have hr : result.successRate < killThreshold ↔ result.processed < 2 * result.errors :=
    SyncResult.successRate_lt_iff (by
      rw [hp, he]
      exact List.countP_le_length)
  rw [hp, he] at hr
  exact ⟨hp, hp.trans hs.symm, he, by simp only [SyncResult.verdict, hr]⟩

-- Unless the pending rows cannot be read, a pass isolates the failures of its items from each
-- other.
theorem syncPending_isolates (hE : Surrounds E) {x : Except PyExc SyncResult}
    (h : Ends E w (syncPending py markedAt sink) w' x) :
    (∃ l, Isolates E py markedAt sink l w w' x) ∨
      ∃ e, E _ .getPending w (.error e) w' ∧ x = .error e := by
  rcases (ends_syncPending_iff hE).mp h with ⟨w₁, l, hread, hpass, rfl⟩ | hread
  case inr => exact .inr hread
  case inl =>
    have ⟨hl, hw⟩ := hE.pending hread
    have hn : (l.map (·.1.receivingId)).Nodup := by
      have hd : (w.db.getPending.map (·.receivingId)).Nodup := Db.nodup_getPending
      rwa [← hl, List.map_map] at hd
    refine .inl ⟨l, ⟨w₁, hread, hpass⟩, hl, ?_, fun id => ?_, _, counted_tally⟩
    case refine_1 => rw [hpass.pending hE, hw, ← hl, filter_failed hn]
    case refine_2 => rw [hpass.marked hE, hw]

-- A world with two pending records, one of them with a timestamp that is not valid.
def World.halfValid : World where
  db := (Db.empty.saveRecord sampleTime (branded "")).saveRecord sampleTime { branded "" with
    receivingId           := "id2"
    receivingId_not_blank := by decide
    timestamp             := "soon"
  }
  board := []
  seen  := fun _ => []

def World.halfValidPass : Except PyExc SyncResult × World :=
  (syncPending .ascii (fun _ => sampleTime) 0).run World.handle .halfValid

theorem syncPending_isolates_sample :
    (∃ l, Isolates World.env .ascii (fun _ => sampleTime) 0 l .halfValid World.halfValidPass.2
      World.halfValidPass.1) ∨
    ∃ e, World.env _ .getPending .halfValid (.error e) World.halfValidPass.2 ∧
      World.halfValidPass.1 = .error e :=
  syncPending_isolates World.env_surrounds (steps_run (fun _ op w => .done op w) _ _)

-- Half of the items may fail.
example : World.halfValidPass.1 = .ok ⟨2, 1, 0, 1⟩ := by decide +kernel

end Passes

end ReceivingApp
