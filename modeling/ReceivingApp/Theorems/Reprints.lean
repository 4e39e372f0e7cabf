import ReceivingApp.Adapters.Desk
import ReceivingApp.Adapters.Ui.Controller
import ReceivingApp.Lib.Hoare
import ReceivingApp.Theorems.Claiming
import ReceivingApp.Theorems.Duplicates

open Interaction Program

namespace ReceivingApp

variable {py : PyStd} {fails : PyExc → Prop} {d d' : Desk}

-- ### Labels

-- A service prints nothing.
theorem service_wp {α : Type} {p : ServiceM α} {I : Desk → Prop} {Q : α → World → Prop}
    (hI : ∀ w, I { d with world := w })
    (h : ∀ a w, Returns World.env d.world p w a → Q a w) :
    (service p).wp (Desk.Answers fails) I (fun a d' => ∃ w, d' = { d with world := w } ∧ Q a w)
      (fun _ _ => True) d := by
  refine wp.mono (wp.lift (R := fun d' w => d' = { d with world := w }) (fun hd he => ?_)
    (fun _ w hd _ => hd ▸ hI w) rfl (wp.ofReturns h)) (fun _ _ _ h => h) fun _ _ _ _ => trivial
  subst hd
  exact he

namespace Scan

variable {s : Scan py}

-- The scan as the application makes it.
def handled (s : Scan py) : ScannerM ScanOutcome :=
  handleScan s.barcode s.serial s.poNumber (process py s.clock s.sink)

-- The scan of the same barcode and serial on the same purchase order at another time.
def again (s : Scan py) (clock : Clock py) : Scan py := { s with clock }

-- The scan may complete with a record of a unit it has received.
def Receives (s : Scan py) (w w' : World) (r : ReceivingRecord) : Prop :=
  s.Completes w w' r ∧ r.matchStatus = .received

-- All labels that were put out since are of units the scan has received.
def Labels (s : Scan py) (d d' : Desk) : Prop :=
  ∃ printed, d'.labels = d.labels ++ printed ∧ ∀ r ∈ printed, ∃ w, s.Receives d.world w r

theorem Labels.refl (h : d'.labels = d.labels) : s.Labels d d' :=
  ⟨[], by rw [h, List.append_nil], fun _ hr => absurd hr List.not_mem_nil⟩

-- A label is printed once at most, and only where the scan has received a unit.
theorem handled_wp :
    s.handled.wp (Desk.Answers fails) (s.Labels d)
      (fun o d' => o.status = .printFailed → s.Receives d.world d'.world o.record)
      (fun _ _ => True) d := by
  have hscan : (process py s.clock s.sink s.barcode s.serial s.poNumber).wp (Desk.Answers fails)
      (s.Labels d) (fun r d' => ∃ w, d' = { d with world := w } ∧ s.Completes d.world w r)
      (fun _ _ => True) d :=
    service_wp (fun _ => .refl rfl) fun _ _ => returns_iff.mp
  refine .bind <| hscan.mono ?next fun _ _ _ _ => trivial
  case next =>
    rintro r _ hl ⟨w, rfl, hc⟩
    split
    case isTrue => exact ⟨hl, nofun⟩
    case isFalse =>
      split
      case isTrue => exact ⟨hl, nofun⟩
      case isFalse hm =>
        have hr : s.Receives d.world w r := ⟨hc, not_not.mp hm⟩
        have hp : s.Labels d ({ d with world := w }.print (.printLabel r)) :=
          ⟨[r], rfl, fun _ hr' => ⟨w, List.mem_singleton.mp hr' ▸ hr⟩⟩
        refine .tryCatch <| .bind <| .perform hl ?ok ?err
        case ok =>
          rintro _ _ (⟨_, rfl⟩ | ⟨_, _, ⟨⟩, _⟩)
          exact ⟨hp, hp, nofun⟩
        case err =>
          rintro e d' (⟨⟨⟩, _⟩ | ⟨_, _, ⟨⟩, hd⟩)
          have hd' : s.Labels d d' ∧ s.Receives d.world d'.world r := by
            rcases hd with rfl | rfl
            exacts [⟨hl, hr⟩, ⟨hp, hr⟩]
          refine ⟨hd'.1, ?_⟩
          split
          case isTrue  => exact ⟨hd'.1, fun _ => hd'.2⟩
          case isFalse => exact ⟨hd'.1, trivial⟩

-- After a scan that has received a unit, no scan receives the same one.
theorem Receives.ne {s' : Scan py} {w w₁ w₂ : World} {r r' : ReceivingRecord}
    (h : s.Receives w w₁ r) (h' : s'.Receives w₁ w₂ r') : r'.inventoryId ≠ r.inventoryId := by
  have ⟨row, id, ht, hid, hr, hp⟩ := h.1.claims.resolve_right fun h' => by simp [h.2] at h'
  have ⟨row', id', ht', hid', hr', _⟩ := h'.1.claims.resolve_right fun h => by simp [h'.2] at h
  subst hr hr'
  intro (he : id' = id)
  have hc : id ∈ w₁.db.ledger.claimed := by
    rw [Db.mem_claimed_iff, hp, Db.claimOf_claim]
    exact .inr ⟨Db.mem_listed_iff.mp (listed_of_target ht hid), rfl⟩
  exact not_claimed_of_target ht' hid' (he ▸ hc)

-- ### Reprints

-- A label comes out for the unit, and nothing else has changed.
structure Reprints (id : String) (d d' : Desk) : Prop where
  label  : ∃ r, d'.labels = d.labels ++ [r] ∧ r.inventoryId = id
  slots  : d'.world.db.ledger.claimed = d.world.db.ledger.claimed
  record : d'.world.db.receivingItems.rows.map (·.receivingId) =
    d.world.db.receivingItems.rows.map (·.receivingId)
  item   : d'.world.board = d.world.board

-- Whatever there is in the repository: once the printer has failed, scanning again with one that
-- works never prints the label.
theorem not_reprints {d₁ d₂ : Desk} {r : ReceivingRecord} {s : Scan py} {clock : Clock py}
    {q : ScannerM ScanOutcome}
    (h : Returns (Desk.Answers fails) d s.handled d₁ ⟨.printFailed, r⟩)
    (hagain : Steps (Desk.Answers fun _ => False) d₁ (s.again clock).handled d₂ q) :
    ¬Reprints r.inventoryId d₁ d₂ := by
  intro hr
  have ⟨r', hl, he⟩ := hr.label
  have ⟨printed, hp, hm⟩ := handled_wp.invariant hagain
  have ⟨w, hw⟩ := hm r' (by simp [List.append_cancel_left (hp.symm.trans hl)])
  exact (handled_wp.returns h rfl).ne hw he

-- ### A failed label

-- Two units of a model, at a desk whose printer does not work.
def sampleDesk : Desk := ⟨.twoUnits, [], []⟩

def failedDesk : Desk := (sample.handled.run (Desk.handle false) sampleDesk).2

def againDesk : Desk := ((sample.again .sample).handled.run (Desk.handle true) failedDesk).2

-- The printer fails for the first unit.
theorem returns_failedDesk :
    ∃ r, Returns (Desk.Answers fun e => e.cls = .printerError) sampleDesk sample.handled failedDesk
      ⟨.printFailed, r⟩ ∧ r.inventoryId = "1" := by
  have ⟨⟨status, r⟩, h, he⟩ := returns_of_map (p := sample.handled) (s := sampleDesk)
    (f := fun o => (o.status, o.record.inventoryId)) (b := (.printFailed, "1"))
    (Desk.answers_handle false (fun e => e.cls = .printerError) fun _ _ => rfl)
    (by decide +kernel)
  have ⟨hs, hid⟩ := Prod.mk.inj he
  exact ⟨r, hs ▸ h, hid⟩

theorem not_reprints_sample : ¬Reprints "1" failedDesk againDesk := by
  obtain ⟨r, h, hr⟩ := returns_failedDesk
  rw [← hr]
  have hagain := steps_run (Desk.answers_handle true (fun _ => False) nofun)
    (sample.again .sample).handled failedDesk
  exact not_reprints h hagain

-- The second scan claims the second unit and prints the label of that one.
theorem not_forall_reprints :
    ¬∀ (d d₁ d₂ : Desk) (s : Scan .ascii) (clock : Clock .ascii) (r : ReceivingRecord)
      (o : ScanOutcome), Reachable .ascii d.world → isBlank s.serial = false →
      Returns (Desk.Answers fun e => e.cls = .printerError) d s.handled d₁ ⟨.printFailed, r⟩ →
      Returns (Desk.Answers fun _ => False) d₁ (s.again clock).handled d₂ o →
      Reprints r.inventoryId d₁ d₂ := by
  intro hall
  have hw : Reachable .ascii sampleDesk.world :=
    .upsert (.empty rfl) (Event.step_loaded (by decide +kernel))
  obtain ⟨r, h, hr⟩ := returns_failedDesk
  obtain ⟨o, h', _⟩ := returns_of_map (p := (sample.again .sample).handled) (s := failedDesk)
    (f := fun o => o.record.inventoryId) (b := "2")
    (Desk.answers_handle true (fun _ => False) nofun) (by decide +kernel)
  obtain ⟨l, hl, he⟩ := (hall _ _ _ _ _ _ _ hw (by decide) h h').label
  have hids : againDesk.labels.map (·.inventoryId) =
      failedDesk.labels.map (·.inventoryId) ++ ["2"] := by decide +kernel
  have hl := congrArg (List.map (·.inventoryId)) hl
  rw [List.map_append, List.map_singleton, he, hr] at hl
  exact absurd (List.append_cancel_left (hids.symm.trans hl)) (by decide)

end Scan
end ReceivingApp
