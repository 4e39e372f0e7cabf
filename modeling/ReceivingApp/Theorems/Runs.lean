import ReceivingApp.Lib.Trace
import ReceivingApp.Services.Refresh
import ReceivingApp.Services.Sync
import ReceivingApp.Theorems.Scan

open Interaction

namespace ReceivingApp

variable {py : PyStd}

-- What happens to the repository and the board.
inductive Event (py : PyStd)
  | upsert (now : String) (items : List LineItem)
  | refresh (now : String) (items : List LineItem)
  | scan (s : Scan py) (r : ReceivingRecord)
  | stopped (s : Scan py)
  | sync (markedAt : Nat → String) (sink : SinkId)

namespace Event

-- A scan that returns its record, and one that is stopped anywhere, by a fault or by a crash. A
-- refresh is one that was confirmed and fetched some rows. A sync may be stopped as well.
inductive Step : World → Event py → World → Prop
  | upsert {w w' : World} {now : String} {items : List LineItem} :
      World.env Unit (.upsertItems now items) w (.ok ()) w' → Step w (.upsert now items) w'
  | refresh {w w' : World} {now : String} {items : List LineItem} :
      items ≠ [] →
      Program.Returns World.env w (refreshAll (.ok items) now true) w' .success →
      Step w (.refresh now items) w'
  | scan {w w' : World} {s : Scan py} {r : ReceivingRecord} :
      Program.Returns World.env w s.program w' r → Step w (.scan s r) w'
  | stopped {w w' : World} {s : Scan py} {q : ServiceM ReceivingRecord} :
      Program.Steps World.env w s.program w' q → Step w (.stopped s) w'
  | sync {w w' : World} {markedAt : Nat → String} {sink : SinkId} {q : ServiceM SyncResult} :
      Program.Steps World.env w (syncPending py markedAt sink) w' q →
      Step w (.sync markedAt sink) w'

theorem transact_ok_iff {w w' : World} {x : Except PyExc Db} :
    w.transact x = (.ok (), w') ↔ ∃ db, x = .ok db ∧ w' = { w with db } := by
  cases x <;> simp [World.transact, World.write, eq_comm]

theorem step_upsert_iff {w w' : World} {now : String} {items : List LineItem} :
    Step w (.upsert now items : Event py) w' ↔
      ∃ db, w.db.upsertItems now items = .ok db ∧ w' = { w with db } := by
  constructor
  case mp  => exact fun (.upsert h) => transact_ok_iff.mp (World.env_ok_iff.mp h)
  case mpr => exact fun h => .upsert (World.env_ok_iff.mpr (transact_ok_iff.mpr h))

theorem refreshAll_propagates {fetched : Except PyExc (List LineItem)} {now : String}
    {confirmed : Bool} : (refreshAll fetched now confirmed).Propagates := by
  simp only [refreshAll]
  split
  case isTrue => exact .pure _
  case isFalse =>
    refine .bind (.ofExcept _) (fun items => ?_)
    split
    case isTrue => exact .pure _
    case isFalse =>
      exact .bind (.perform _) fun _ => .bind (.perform _) fun _ => .bind (.perform _) fun _ =>
        .pure _

theorem run_refreshAll {w : World} {now : String} {items : List LineItem} (h : items ≠ []) :
    (refreshAll (.ok items) now true).run World.handle w =
      ((w.transact (w.db.replacePoItems now items)).1.map (fun _ => .success),
        (w.transact (w.db.replacePoItems now items)).2) := by
  cases hr : w.db.replacePoItems now items
  all_goals
    simp [refreshAll, h, Program.run_bind, World.handle, World.query, hr, World.transact,
      World.write, Except.map]

theorem step_refresh_iff {w w' : World} {now : String} {items : List LineItem} :
    Step w (.refresh now items : Event py) w' ↔
      items ≠ [] ∧ ∃ db, w.db.replacePoItems now items = .ok db ∧ w' = { w with db } := by
  have hrun (hi : items ≠ []) :
      Program.Returns World.env w (refreshAll (.ok items) now true) w' .success ↔
        ∃ db, w.db.replacePoItems now items = .ok db ∧ w' = { w with db } := by
    rw [World.env, Program.returns_iff_run refreshAll_propagates, run_refreshAll hi]
    cases w.db.replacePoItems now items <;>
      simp [World.transact, World.write, Except.map, eq_comm]
  constructor
  case mp =>
    intro hs
    cases hs
    case refresh hi h => exact ⟨hi, (hrun hi).mp h⟩
  case mpr =>
    rintro ⟨hi, h⟩
    exact .refresh hi ((hrun hi).mpr h)

theorem step_scan_iff {w w' : World} {s : Scan py} {r : ReceivingRecord} :
    Step w (.scan s r) w' ↔ s.Completes w w' r :=
  ⟨fun (.scan h) => Scan.returns_iff.mp h, fun h => .scan (Scan.returns_iff.mpr h)⟩

end Event

-- Runs of completed scans, each with the record it returns.
abbrev Scans (py : PyStd) : World → List (Scan py × ReceivingRecord) → World → Prop :=
  Trace (fun w t w' => Program.Returns World.env w t.1.program w' t.2)

-- Completed scans leave no choice.
theorem Scans.unique {w w₁ w₂ : World} {tr : List (Scan py × ReceivingRecord)}
    (h₁ : Scans py w tr w₁) (h₂ : Scans py w tr w₂) : w₁ = w₂ := by
  induction h₁
  case nil =>
    cases h₂
    rfl
  case cons t _ hs _ ih =>
    cases h₂
    case cons hs' h₂ =>
      have hr := (Program.returns_iff_run t.1.propagates).mp hs
      have hr' := (Program.returns_iff_run t.1.propagates).mp hs'
      cases hr.symm.trans hr'
      exact ih h₂

-- ### Playing a run

-- The world after a scan that nothing disturbs, the record it returns and the record's status.
def Scan.after (s : Scan py) (w : World) : World :=
  (s.program.run World.handle w).2

def Scan.returned (s : Scan py) (w : World) : Option ReceivingRecord :=
  match (s.program.run World.handle w).1 with
  | .ok r    => some r
  | .error _ => none

def Scan.answer (s : Scan py) (w : World) : Option MatchStatus :=
  (s.returned w).map (·.matchStatus)

theorem Scan.completes_of_map {α : Type} {s : Scan py} {w : World} {f : ReceivingRecord → α} {a : α}
    (h : (s.returned w).map f = some a) : ∃ r, s.Completes w (s.after w) r ∧ f r = a := by
  have ⟨r, hr, hf⟩ := Option.map_eq_some_iff.mp h
  refine ⟨r, returns_iff.mp ((Program.returns_iff_run s.propagates).mpr (Prod.ext ?_ rfl)), hf⟩
  simp only [returned] at hr
  split at hr <;> simp_all

theorem Scan.completes_of_answer {s : Scan py} {w : World} {status : MatchStatus}
    (h : s.answer w = some status) : ∃ r, s.Completes w (s.after w) r ∧ r.matchStatus = status :=
  completes_of_map h

-- A new repository, with a board.
def World.init : World where
  db    := .empty
  board := []
  seen  := fun _ => []

def Clock.sample : Clock .ascii where
  claimedAt := sampleTime
  timestamp := sampleTime
  savedAt   := sampleTime
  markedAt  := sampleTime
  timestamp_iso := rfl

-- A unit as the source delivers it.
def LineItem.unit (inventoryId po model : String) : LineItem where
  inventoryId   := some inventoryId
  purchaseOrder := some po
  modelNumber   := some model

def World.loaded (items : List LineItem) : World :=
  (World.init.transact (Db.empty.upsertItems sampleTime items)).2

theorem Event.step_loaded {items : List LineItem}
    (h : (Db.empty.upsertItems sampleTime items).isOk) :
    Step .init (.upsert sampleTime items : Event py) (.loaded items) := by
  cases hu : Db.empty.upsertItems sampleTime items
  case error => simp [hu, Except.isOk, Except.toBool] at h
  case ok db => exact step_upsert_iff.mpr ⟨db, hu, by simp [World.loaded, hu]; rfl⟩

-- The world after a refresh from a source that delivers the given items.
def World.refreshed (items : List LineItem) (w : World) : World :=
  (w.transact (w.db.replacePoItems sampleTime items)).2

theorem Event.step_refreshed {w : World} {items : List LineItem} (hi : items ≠ [])
    (h : (w.db.replacePoItems sampleTime items).isOk) :
    Step w (.refresh sampleTime items : Event py) (w.refreshed items) := by
  cases hu : w.db.replacePoItems sampleTime items
  case error => simp [hu, Except.isOk, Except.toBool] at h
  case ok db => exact step_refresh_iff.mpr ⟨hi, db, hu, by simp [World.refreshed, hu]; rfl⟩

-- One unit of a model, and two of them.
def World.oneUnit : World := .loaded [.unit "1" "P" "A"]

def World.twoUnits : World := .loaded [.unit "1" "P" "A", .unit "2" "P" "A"]

def Scan.sample : Scan .ascii := ⟨"A", "P", "S1", 0, .sample⟩

end ReceivingApp
