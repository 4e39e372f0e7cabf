import ReceivingApp.Theorems.Alerts
import ReceivingApp.Theorems.UiSteps

open Interaction

namespace ReceivingApp

variable {py : PyStd} {isDigit : Char → Bool} {read : Except PyExc (Option SyncStatusRecord)}

namespace Ui

variable {ui ui' : Ui} {e : UiEvent} {record : SyncStatusRecord}

-- ### The poll

def Polls (ui : Ui) : Prop :=
  ui.state ≠ .syncStopped ∧ ui.state ≠ .matching

-- All that a poll can do.
inductive PollMoves (ui : Ui) (read : Except PyExc (Option SyncStatusRecord)) : Prop
  | quiet : ui.alert read = none → ui.pollSyncStatus read = ui → PollMoves ui read
  | alerts {record : SyncStatusRecord} : read = .ok (some record) →
    ui.dismissedSyncStopAt ≠ some record.updatedAt → ui.alert read = some record.updatedAt →
    ui.pollSyncStatus read = setSyncStopped { ui with lastSyncStopAt := some record.updatedAt } →
    PollMoves ui read

theorem pollSyncStatus_of_alert (hs : record.state = .stopped)
    (hd : ui.dismissedSyncStopAt ≠ some record.updatedAt) (hp : ui.Polls) :
    ui.pollSyncStatus (.ok (some record)) =
      setSyncStopped { ui with lastSyncStopAt := some record.updatedAt } := by
  have ha : shouldAlertSyncStopped (some record) ui.dismissedSyncStopAt = true := by
    simpa using mt (shouldAlert_eq_false_iff hs).mp hd
  simp [pollSyncStatus, ha, hp.1, hp.2]

theorem alert_of_stopped (hs : record.state = .stopped)
    (hd : ui.dismissedSyncStopAt ≠ some record.updatedAt) (hp : ui.Polls) :
    ui.alert (.ok (some record)) = some record.updatedAt := by
  simp [alert, pollSyncStatus_of_alert hs hd hp, setSyncStopped, hp.1]

theorem pollMoves (ui : Ui) (read : Except PyExc (Option SyncStatusRecord)) :
    PollMoves ui read := by
  rcases read with _ | _ | record
  case error   => exact .quiet rfl rfl
  case ok.none => exact .quiet (by simp [alert]) (by simp [pollSyncStatus, shouldAlertSyncStopped])
  case ok.some =>
    by_cases h : record.state = .stopped ∧ ui.dismissedSyncStopAt ≠ some record.updatedAt ∧ ui.Polls
    case pos =>
      obtain ⟨hs, hd, hp⟩ := h
      exact .alerts rfl hd (alert_of_stopped hs hd hp) (pollSyncStatus_of_alert hs hd hp)
    case neg =>
      have hq : ui.pollSyncStatus (.ok (some record)) = ui := by
        simp only [pollSyncStatus, ite_eq_right_iff]
        rintro ⟨ha, hp⟩
        simp only [shouldAlertSyncStopped, decide_eq_true_eq] at ha
        refine absurd ⟨ha.1, fun hd => ?_, hp⟩ h
        exact ha.2.elim (by simp [hd]) fun hne => hne hd.symm
      exact .quiet (by simp only [alert, hq, ne_eq, not_and_self, if_false]) hq

-- ### What the UI remembers

-- Only a dismissal in SYNC_STOPPED changes what is remembered, and only a poll leads there.
theorem Moves.remembers (hm : ui.Moves e ui') (hd : e = .dismiss → ui.state ≠ .syncStopped) :
    ui'.lastSyncStopAt = ui.lastSyncStopAt ∧ ui'.dismissedSyncStopAt = ui.dismissedSyncStopAt ∧
      (ui'.state = .syncStopped → ui.state = .syncStopped) := by
  cases hm
  case syncDismissed hs => exact absurd hs (hd rfl)
  all_goals exact ⟨rfl, rfl, by first | exact id | exact nofun⟩

end Ui

namespace Station

variable {s s' : Station} {e : StationEvent}

def written : StationEvent → Option String
  | .writeSyncStatus record => some record.updatedAt
  | _                       => none

-- The `updated_at` of what is stored at first, and of all that is written.
def stamps (status : Option SyncStatusRecord) (es : List StationEvent) : List String :=
  (status.map (·.updatedAt)).toList ++ es.filterMap written

-- A poll alerts for no stop whose alert has been dismissed, and for every other one that is stored.
structure Hears (s : Station) (read : Except PyExc (Option SyncStatusRecord)) : Prop where
  unrepeated  : ∀ t ∈ s.dismissed, s.ui.alert read ≠ some t
  unswallowed : ∀ record, s.status = some record → record.state = .stopped →
    record.updatedAt ∉ s.dismissed → s.ui.Polls → read.isOk →
    s.ui.alert read = some record.updatedAt ∧ (s.ui.pollSyncStatus read).state = .syncStopped

def HearsAll (s : Station) : StationEvent → Prop
  | .poll read => s.Hears read
  | _          => True

-- The stops that are remembered are among those that have been stored. The last one dismissed is
-- the only one dismissed that may still be stored, and it is not while an alert is open.
structure Remembers (ts : List String) (s : Station) : Prop where
  stored        : ∀ record, s.status = some record → record.updatedAt ∈ ts
  last          : s.ui.lastSyncStopAt = s.shown
  shown         : ∀ t, s.shown = some t → t ∈ ts
  dismissed     : ∀ t ∈ s.dismissed, t ∈ ts
  lastDismissed : s.ui.dismissedSyncStopAt = s.dismissed.getLast?
  current       : ∀ record, s.status = some record → record.updatedAt ∈ s.dismissed →
    s.ui.dismissedSyncStopAt = some record.updatedAt
  opened        : s.ui.state = .syncStopped → s.shown.isSome ∧
    ∀ record, s.status = some record → record.updatedAt ∉ s.dismissed

namespace Remembers

theorem init (status : Option SyncStatusRecord) :
    Remembers (stamps status []) (.init status) where
  stored _ h    := by simp [stamps, show status = _ from h]
  last          := rfl
  shown         := nofun
  dismissed     := nofun
  lastDismissed := rfl
  current       := nofun
  opened        := nofun

variable {ts : List String}

theorem mem_dismissed (h : s.Remembers ts) {t : String}
    (ht : s.ui.dismissedSyncStopAt = some t) : t ∈ s.dismissed :=
  List.mem_of_getLast? (h.lastDismissed ▸ ht)

-- A new time is none of those that are remembered.
theorem write {record : SyncStatusRecord} (h : s.Remembers ts) (hn : record.updatedAt ∉ ts) :
    Remembers (ts ++ [record.updatedAt]) { s with status := some record } := by
  have hd : record.updatedAt ∉ s.dismissed := fun hm => hn (h.dismissed _ hm)
  exact {
    stored        := by rintro _ ⟨⟩; simp
    last          := h.last
    shown         := fun t ht => List.mem_append_left _ (h.shown t ht)
    dismissed     := fun t ht => List.mem_append_left _ (h.dismissed t ht)
    lastDismissed := h.lastDismissed
    current       := by rintro _ ⟨⟩ hm; exact absurd hm hd
    opened        := fun hs => ⟨(h.opened hs).1, by rintro _ ⟨⟩; exact hd⟩
  }

theorem poll (h : s.Remembers ts) (hp : s.Possible py (.poll read)) :
    Remembers ts { s with
      ui    := s.ui.pollSyncStatus read
      shown := (s.ui.alert read).or s.shown
    } := by
  rcases s.ui.pollMoves read with ⟨ha, hu⟩ | ⟨rfl, hd, ha, hu⟩
  case quiet =>
    rw [ha, hu]
    exact h
  case alerts record =>
    have hr : s.status = some record := hp.symm
    rw [ha, hu]
    exact {
      stored        := h.stored
      last          := rfl
      shown         := by rintro _ ⟨⟩; exact h.stored record hr
      dismissed     := h.dismissed
      lastDismissed := h.lastDismissed
      current       := h.current
      opened        := fun _ => ⟨rfl, fun record hs hm => by
        cases hr.symm.trans hs
        exact hd (h.current record hs hm)⟩
    }

-- The open alert is dismissed.
theorem dismissSyncStopped (h : s.Remembers ts) (hs : s.ui.state = .syncStopped) :
    Remembers ts { s with
      ui        := s.ui.dismissSyncStopped
      dismissed := s.dismissed ++ s.shown.toList
    } := by
  have ⟨hi, ho⟩ := h.opened hs
  obtain ⟨t, ht⟩ := Option.isSome_iff_exists.mp hi
  have hl : s.ui.lastSyncStopAt = some t := h.last.trans ht
  have hm {t'} : t' ∈ s.dismissed ++ s.shown.toList ↔ t' ∈ s.dismissed ∨ t' = t := by simp [ht]
  exact {
    stored        := h.stored
    last          := h.last
    shown         := h.shown
    dismissed     := by
      intro t' ht'
      rcases hm.mp ht' with hd | rfl
      · exact h.dismissed t' hd
      · exact h.shown t' ht
    lastDismissed := by simpa [ht, Ui.dismissSyncStopped, Ui.setIdle, Ui.hideManualEntry] using hl
    current       := by
      intro record hr hd
      have he : record.updatedAt = t := (hm.mp hd).resolve_left (ho record hr)
      rw [he]
      exact hl
    opened        := nofun
  }

theorem ui {e : UiEvent} {ui' : Ui} (h : s.Remembers ts) (hn : s.ui.next isDigit e = some ui') :
    Remembers ts { s with
      ui        := ui'
      dismissed := s.dismissed ++ s.dismisses e
    } := by
  by_cases hd : e = .dismiss ∧ s.ui.state = .syncStopped
  case pos =>
    obtain ⟨rfl, hs⟩ := hd
    have hu : ui' = s.ui.dismissSyncStopped := by
      simpa [Ui.next, Ui.dismissNoMatch, hs] using hn.symm
    simp only [dismisses, hs, if_true, hu]
    exact h.dismissSyncStopped hs
  case neg =>
    have hd := not_and.mp hd
    obtain ⟨hl, hdis, hs⟩ := (Ui.moves_of_next hn).remembers hd
    have hnil : s.dismisses e = [] := by
      cases e
      case dismiss => simp [dismisses, hd rfl]
      all_goals rfl
    rw [hnil, List.append_nil]
    exact {
      stored        := h.stored
      last          := hl.trans h.last
      shown         := h.shown
      dismissed     := h.dismissed
      lastDismissed := hdis.trans h.lastDismissed
      current       := fun record hr hm => hdis.trans (h.current record hr hm)
      opened        := fun hs' => h.opened (hs hs')
    }

-- What is remembered after some steps, all of whose times are distinct.
theorem step {status : Option SyncStatusRecord} {es : List StationEvent}
    (hs : Step py isDigit s e s') (h : (stamps status es).Nodup → s.Remembers (stamps status es))
    (hd : (stamps status (es ++ [e])).Nodup) : s'.Remembers (stamps status (es ++ [e])) := by
  have ⟨hp, hn⟩ := hs
  have he : stamps status (es ++ [e]) = stamps status es ++ (written e).toList := by
    cases h : written e <;> simp [stamps, h]
  rw [he] at hd ⊢
  have h := h hd.of_append_left
  cases e
  case ui =>
    obtain ⟨ui', hui, rfl⟩ := next_ui_eq_some_iff.mp hn
    simpa [written] using h.ui hui
  case writeSyncStatus record =>
    cases hn
    have hn := (List.nodup_append'.mp hd).2.2
    exact h.write fun hm => hn hm (List.mem_singleton_self _)
  case poll =>
    obtain rfl := next_poll_eq_some_iff.mp hn
    simpa [written] using h.poll hp

-- A poll alerts by what is remembered.
theorem hears (h : s.Remembers ts) (hp : s.Possible py (.poll read)) : s.Hears read where
  unrepeated t ht ha := by
    rcases s.ui.pollMoves read with ⟨hq, _⟩ | ⟨rfl, hd, ha', -⟩
    case quiet => cases hq.symm.trans ha
    case alerts record =>
      cases ha'.symm.trans ha
      exact hd (h.current record hp.symm ht)
  unswallowed record hr hs hn hq hok := by
    rcases read with _ | status
    case error => cases hok
    case ok =>
      obtain rfl : status = some record := hp.trans hr
      have hd : s.ui.dismissedSyncStopAt ≠ some record.updatedAt := mt h.mem_dismissed hn
      exact ⟨Ui.alert_of_stopped hs hd hq, by rw [Ui.pollSyncStatus_of_alert hs hd hq]; rfl⟩

end Remembers

-- In a run that writes no time twice, no stop is repeated or swallowed by a poll.
theorem hears_all {status : Option SyncStatusRecord} {es : List StationEvent}
    (h : (stamps status es).Nodup) :
    Trace.Each (Step py isDigit) HearsAll (.init status) es := by
  intro es₁ e es₂ s s' hes ht hs
  cases e
  case poll read =>
    have hr := ht.invariant_labels
      (I := fun es s => (stamps status es).Nodup → s.Remembers (stamps status es))
      (fun hs hr => Remembers.step hs hr) (fun _ => .init status)
    refine (hr (h.sublist ?_)).hears hs.1
    rw [hes]
    exact (List.sublist_append_left _ _).filterMap _ |>.append_left _
  all_goals trivial

-- While the alert for one stop is open, another one is written.
def stopAt (updatedAt : String) : SyncStatusRecord :=
  ⟨.stopped, .kill, 2, "2 consecutive failures", updatedAt⟩

theorem hears_all_sample :
    Trace.Each (Step .ascii Char.isDigit) HearsAll (.init none) [
      .writeSyncStatus (stopAt "2026-01-01"),
      .poll (.ok (some (stopAt "2026-01-01"))),
      .writeSyncStatus (stopAt "2026-01-02"),
      .ui .dismiss,
      .poll (.ok (some (stopAt "2026-01-02")))
    ] :=
  hears_all (by decide +kernel)

end Station
end ReceivingApp
