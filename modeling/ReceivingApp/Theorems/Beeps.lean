import ReceivingApp.Adapters.Ui.AlarmLoop
import ReceivingApp.Theorems.SyncStops

open Interaction

namespace ReceivingApp

-- ### What turns the alarm on

-- How a step leaves the alarm that starts it, or does not.
def Switches (starts alarm alarm' : Bool) : Prop :=
  if starts then alarm' = true else alarm' = true → alarm = true

theorem switches_kept {alarm : Bool} : Switches false alarm alarm :=
  id

theorem switches_off {alarm : Bool} : Switches false alarm false :=
  nofun

namespace Ui

variable {isDigit : Char → Bool} {ui ui' : Ui} {e : UiEvent}

-- Whether a step of the UI calls `start_alarm`.
def startsAlarm (ui : Ui) (e : UiEvent) : Bool :=
  (ui.transition e).any Transition.startsAlarm || ui.reminds e

theorem switches_invoke {i : Nat} {c : Callback} :
    Switches ((c.transition ui).any Transition.startsAlarm || c.reminds ui) ui.alarm
      (invoke c (ui.dequeue i)).alarm := by
  cases c
  case lockPo | addPo | setIdle | autoClear => exact switches_off
  case handleNeedsModelScan => rfl
  case handleProposeScan barcode =>
    by_cases hb : ui.pendingBarcode = some barcode
    case pos =>
      have ha : (invoke (.handleProposeScan barcode) (ui.dequeue i)).alarm = ui.alarm := by
        simp [invoke, handleProposeScan, dequeue, hb, setMidScan, establish]
      simp [Switches, Callback.transition, Callback.reminds, Transition.startsAlarm, hb, ha]
    case neg =>
      have ha : (invoke (.handleProposeScan barcode) (ui.dequeue i)).alarm = true := by
        simp [invoke, handleProposeScan, dequeue, hb]
      simp [Switches, Callback.transition, Callback.reminds, hb, ha]
  case applyVerdict result _ =>
    simp only [invoke, applyVerdict, Callback.transition, Callback.reminds]
    cases result.verdict
    case auto                => exact switches_kept
    case propose | needsModel => rfl
  case applyOutcome outcome =>
    simp only [invoke, applyOutcome, Callback.transition, Callback.reminds]
    cases outcome.status
    case received | alreadyScanned => exact switches_off
    case noMatch                   => rfl
    case printFailed               => exact switches_kept

theorem switches_dismissNoMatch :
    Switches (ui.startsAlarm .dismiss) ui.alarm ui.dismissNoMatch.alarm := by
  cases hs : ui.state
  all_goals simp only [startsAlarm, reminds, dismissNoMatch, transition, hs]
  case noMatch | printFailed | alreadyScanned | propose | needsModel | syncStopped =>
    exact switches_off
  all_goals exact switches_kept

theorem switches_onNeedsModelSubmit {model : String} {onPo : Except PyExc Bool} :
    Switches (ui.startsAlarm (.needsModelSubmit model onPo)) ui.alarm
      (ui.onNeedsModelSubmit model onPo).alarm := by
  simp only [startsAlarm, reminds, onNeedsModelSubmit, transition]
  split
  case isTrue => rfl
  case isFalse =>
    split
    case isTrue => exact switches_off
    case isFalse =>
      cases onPo
      case error => exact switches_kept
      case ok b =>
        cases b
        case true | false => exact switches_kept

theorem switches_next (h : ui.next isDigit e = some ui') :
    Switches (ui.startsAlarm e) ui.alarm ui'.alarm := by
  cases e
  case fire =>
    obtain ⟨c, hc, rfl⟩ := next_fire_eq_some_iff.mp h
    simp only [startsAlarm, transition, reminds, hc]
    exact switches_invoke
  case dismiss =>
    cases h
    exact switches_dismissNoMatch
  case needsModelSubmit =>
    have ⟨_, h⟩ := Option.ite_none_right_eq_some.mp h
    cases h
    exact switches_onNeedsModelSubmit
  case reset =>
    have ⟨_, h⟩ := Option.ite_none_right_eq_some.mp h
    cases h
    exact switches_off
  all_goals
    cases moves_of_next h
    all_goals exact switches_kept

end Ui

theorem Station.switches_next {isDigit : Char → Bool} {s s' : Station} {e : StationEvent}
    (h : s.next isDigit e = some s') : Switches (s.startsAlarm e) s.ui.alarm s'.ui.alarm := by
  cases e
  case ui =>
    obtain ⟨ui', hui, rfl⟩ := next_ui_eq_some_iff.mp h
    exact Ui.switches_next hui
  case writeSyncStatus =>
    cases h
    exact switches_kept
  case poll status =>
    cases next_poll_eq_some_iff.mp h
    cases status
    case error => exact switches_kept
    case ok status =>
      simp only [Ui.pollSyncStatus, startsAlarm, transition]
      split
      case isTrue  => rfl
      case isFalse => exact switches_kept

-- ### Threads

namespace AlarmThread

-- The beeps and the steps of a thread that are still to come, once the event is set for good.
def beepsLeft : AlarmThread → Nat
  | beepHigh | pauseShort | beepLow => 1
  | _                               => 0

def stepsLeft : AlarmThread → Nat
  | pauseShort                                => 3
  | beepHigh | beepLow | pauseLong            => 2
  | loop | checkHigh | checkLow               => 1
  | ended | died                              => 0

variable {thread thread' : AlarmThread}

theorem left_next (h : thread.next true = some thread') :
    thread'.stepsLeft + 1 = thread.stepsLeft ∧
      thread'.beepsLeft + thread.tone.toList.length = thread.beepsLeft := by
  cases thread <;> cases h <;> exact ⟨rfl, rfl⟩

theorem left_le (thread : AlarmThread) : thread.beepsLeft ≤ 1 ∧ thread.stepsLeft ≤ 3 := by
  cases thread <;> decide

theorem stepsLeft_of_tone {f : Nat} (h : thread.tone = some f) : 1 ≤ thread.stepsLeft := by
  cases thread <;> cases h <;> decide

def IsRunning (thread : AlarmThread) : Prop :=
  thread ≠ ended ∧ thread ≠ died

instance : DecidablePred IsRunning := fun _ => inferInstanceAs (Decidable (_ ∧ _))

-- While the event is not set, no thread ends.
theorem isRunning_next (h : thread.next false = some thread') :
    thread.IsRunning ∧ thread'.IsRunning := by
  cases thread <;> cases h <;> decide

end AlarmThread

namespace AlarmDesk

variable {py : PyStd} {isDigit : Char → Bool} {d d' : AlarmDesk} {e : AlarmEvent}
  {es : List AlarmEvent}

def starts (d : AlarmDesk) : AlarmEvent → Bool
  | .station e => d.station.startsAlarm e
  | _          => false

-- All that a step can do.
inductive Moves (d : AlarmDesk) : AlarmEvent → AlarmDesk → Prop
  | station {e : StationEvent} {station : Station} :
    Switches (d.station.startsAlarm e) d.station.ui.alarm station.ui.alarm →
    Moves d (.station e)
      ⟨station, if d.station.startsAlarm e then d.threads ++ [.loop] else d.threads, d.beeps⟩
  | thread {i : Nat} {thread thread' : AlarmThread} :
    d.threads[i]? = some thread → thread.next d.isSet = some thread' →
    Moves d (.thread i)
      ⟨d.station, d.threads.set i thread', d.beeps ++ (thread.tone.map (i, ·)).toList⟩
  | beepRaises {i f : Nat} {thread : AlarmThread} :
    d.threads[i]? = some thread → thread.tone = some f →
    Moves d (.beepRaises i) { d with threads := d.threads.set i .died }

theorem moves_of_step (h : Step py isDigit d e d') : d.Moves e d' := by
  have ⟨_, h⟩ := h
  cases e
  case station =>
    obtain ⟨station, hn, ⟨⟩⟩ := Option.bind_eq_some_iff.mp h
    exact .station (Station.switches_next hn)
  case thread =>
    obtain ⟨thread, ht, h⟩ := Option.bind_eq_some_iff.mp h
    obtain ⟨thread', hn, ⟨⟩⟩ := Option.bind_eq_some_iff.mp h
    exact .thread ht hn
  case beepRaises =>
    obtain ⟨thread, ht, h⟩ := Option.bind_eq_some_iff.mp h
    obtain ⟨f, hf, ⟨⟩⟩ := Option.bind_eq_some_iff.mp h
    exact .beepRaises ht hf

-- ### The alarm is on

-- The last thread that was started has not found the event set.
def Sounds (d : AlarmDesk) : Prop :=
  d.station.ui.alarm → ∃ thread, d.threads.getLast? = some thread ∧ thread ≠ .ended

theorem getLast?_set {i : Nat} {thread : AlarmThread} (h : thread ≠ .ended) :
    (∃ t, d.threads.getLast? = some t ∧ t ≠ .ended) →
      ∃ t, (d.threads.set i thread).getLast? = some t ∧ t ≠ .ended := by
  rintro ⟨t, hl, ht⟩
  rw [List.getLast?_eq_getElem?] at hl ⊢
  rw [List.length_set, List.getElem?_set]
  split
  case isTrue hi =>
    have hlt : i < d.threads.length := hi ▸ (List.getElem?_eq_some_iff.mp hl).1
    exact ⟨thread, by simp [hi, hi ▸ hlt], h⟩
  case isFalse => exact ⟨t, hl, ht⟩

theorem Sounds.step (hm : d.Moves e d') (h : d.Sounds) : d'.Sounds := by
  intro ha
  cases hm
  case station e station ht =>
    dsimp only at ha ⊢
    split
    case isTrue  => exact ⟨.loop, by simp, by decide⟩
    case isFalse hs =>
      rw [Switches, if_neg hs] at ht
      exact h (ht ha)
  case thread i thread thread' _ hn =>
    have hset : d.isSet = false := congrArg (!·) (show d.station.ui.alarm = true from ha)
    rw [hset] at hn
    exact getLast?_set (AlarmThread.isRunning_next hn).2.1 (h ha)
  case beepRaises => exact getLast?_set (by decide) (h ha)

-- ### The alarm is off

-- What a thread is still to do, where there is one of this place.
def left (count : AlarmThread → Nat) (i : Nat) (d : AlarmDesk) : Nat :=
  d.threads[i]?.elim 0 count

theorem left_set {i j : Nat} {thread thread' : AlarmThread} {station : Station}
    {beeps : List (Nat × Nat)} (ht : d.threads[i]? = some thread) (count : AlarmThread → Nat) :
    left count j ⟨station, d.threads.set i thread', beeps⟩ =
      if i = j then count thread' else left count j d := by
  have hlt : i < d.threads.length := (List.getElem?_eq_some_iff.mp ht).1
  rw [left, List.getElem?_set, if_pos hlt]
  split
  case isTrue  => rfl
  case isFalse => rfl

end AlarmDesk

-- The thread that takes the step.
def AlarmEvent.isOf (i : Nat) : AlarmEvent → Bool
  | thread j | beepRaises j => i = j
  | station _               => false

namespace AlarmDesk

variable {py : PyStd} {isDigit : Char → Bool} {d d' : AlarmDesk} {e : AlarmEvent}
  {es : List AlarmEvent}

-- What was to do has been done, or is still to do.
structure Fades (d : AlarmDesk) (es : List AlarmEvent) (d' : AlarmDesk) : Prop where
  isSet : d'.isSet
  steps : ∀ i,
    es.countP (·.isOf i) + left AlarmThread.stepsLeft i d' ≤ left AlarmThread.stepsLeft i d
  beeps : ∃ bs, d'.beeps = d.beeps ++ bs ∧
    ∀ i, bs.countP (·.1 = i) + left AlarmThread.beepsLeft i d' ≤ left AlarmThread.beepsLeft i d

theorem Fades.refl (h : d.isSet) : d.Fades [] d where
  isSet := h
  steps := fun _ => by simp
  beeps := ⟨[], by simp, fun _ => by simp⟩

theorem Fades.cons {d₁ : AlarmDesk} (h : d.Fades [e] d₁) (h' : d₁.Fades es d') :
    d.Fades (e :: es) d' where
  isSet := h'.isSet
  steps i := by
    have h₁ := h.steps i
    have h₂ := h'.steps i
    rw [← List.singleton_append, List.countP_append]
    omega
  beeps := by
    obtain ⟨bs, hb, hbs⟩ := h.beeps
    obtain ⟨bs', hb', hbs'⟩ := h'.beeps
    refine ⟨bs ++ bs', by rw [hb', hb, List.append_assoc], fun i => ?_⟩
    have h₁ := hbs i
    have h₂ := hbs' i
    rw [List.countP_append]
    omega

-- The beeps of a step are those of its thread.
theorem countP_tone {i j : Nat} (tone : Option Nat) :
    (tone.map (i, ·)).toList.countP (·.1 = j) = if i = j then tone.toList.length else 0 := by
  cases tone
  case none   => simp
  case some f => by_cases hij : i = j <;> simp [hij]

theorem fades_of_moves (hm : d.Moves e d') (hset : d.isSet) (hq : d.starts e = false) :
    d.Fades [e] d' := by
  have hoff : d.station.ui.alarm = false := by simpa [AlarmDesk.isSet] using hset
  cases hm
  case station e station ht =>
    have hq : d.station.startsAlarm e = false := hq
    rw [hq, hoff] at ht
    have hoff' : station.ui.alarm = false := Bool.eq_false_iff.mpr fun ha => nomatch ht ha
    rw [if_neg (Bool.eq_false_iff.mp hq)]
    exact ⟨congrArg (!·) hoff', fun _ => by simp [AlarmEvent.isOf, left], [], by simp,
      fun _ => by simp [left]⟩
  case thread i thread thread' ht hn =>
    rw [hset] at hn
    have ⟨hsteps, hbeeps⟩ := AlarmThread.left_next hn
    refine ⟨hset, fun j => ?_, _, rfl, fun j => ?_⟩
    · rw [left_set ht]
      by_cases hij : i = j
      case pos =>
        subst hij
        simp [AlarmEvent.isOf, left, ht, ← hsteps, Nat.add_comm]
      case neg => simp [AlarmEvent.isOf, hij, Ne.symm hij]
    · rw [left_set ht, countP_tone]
      by_cases hij : i = j
      case pos =>
        subst hij
        rw [if_pos rfl, if_pos rfl, left, ht, Nat.add_comm, hbeeps]
        exact le_rfl
      case neg => rw [if_neg hij, if_neg hij, Nat.zero_add]
  case beepRaises i f thread ht hf =>
    have hone := AlarmThread.stepsLeft_of_tone hf
    refine ⟨hset, fun j => ?_, [], by simp, fun j => ?_⟩
    · rw [left_set ht]
      by_cases hij : i = j
      case pos =>
        subst hij
        simpa [AlarmEvent.isOf, left, ht, AlarmThread.stepsLeft] using hone
      case neg => simp [AlarmEvent.isOf, hij, Ne.symm hij]
    · rw [left_set ht]
      by_cases hij : i = j
      case pos => simp [hij, AlarmThread.beepsLeft]
      case neg => simp [hij]

-- ### Runs

def Raises : AlarmEvent → Prop
  | .beepRaises _ => True
  | _             => False

-- A step while the alarm is on, in which no `Beep` raises.
def OnStep (py : PyStd) (isDigit : Char → Bool) (d : AlarmDesk) (e : AlarmEvent) (d' : AlarmDesk) :
    Prop :=
  Step py isDigit d e d' ∧ d.station.ui.alarm ∧ ¬Raises e

-- A step that does not start the alarm.
def QuietStep (py : PyStd) (isDigit : Char → Bool) (d : AlarmDesk) (e : AlarmEvent)
    (d' : AlarmDesk) : Prop :=
  Step py isDigit d e d' ∧ d.starts e = false

-- No thread has ended that had not ended before.
def Goes (d d' : AlarmDesk) : Prop :=
  ∀ (i : Nat) (thread : AlarmThread), d'.threads[i]? = some thread → ¬thread.IsRunning →
    ∃ before, d.threads[i]? = some before ∧ ¬before.IsRunning

theorem goes_of_onStep (h : OnStep py isDigit d e d') : d.Goes d' := by
  have ⟨hs, ha, hr⟩ := h
  intro j thread' hj hn
  cases moves_of_step hs
  case beepRaises => exact absurd trivial hr
  case station e station _ =>
    dsimp only at hj
    split at hj
    case isFalse => exact ⟨thread', hj, hn⟩
    case isTrue =>
      rw [List.getElem?_append] at hj
      split at hj
      case isTrue  => exact ⟨thread', hj, hn⟩
      case isFalse =>
        rw [List.getElem?_singleton] at hj
        split at hj
        case isTrue =>
          cases hj
          exact absurd (by decide) hn
        case isFalse => cases hj
  case thread i thread next ht hnext =>
    have hset : d.isSet = false := congrArg (!·) ha
    rw [hset] at hnext
    dsimp only at hj
    rw [List.getElem?_set] at hj
    split at hj
    case isFalse => exact ⟨thread', hj, hn⟩
    case isTrue =>
      split at hj
      case isFalse => cases hj
      case isTrue =>
        cases hj
        exact absurd (AlarmThread.isRunning_next hnext).2 hn

theorem goes_of_trace (h : Trace (OnStep py isDigit) d es d') : d.Goes d' := by
  induction h
  case nil => exact fun i thread hi hn => ⟨thread, hi, hn⟩
  case cons hs _ ih =>
    intro i thread hi hn
    have ⟨_, hi, hn⟩ := ih i thread hi hn
    exact goes_of_onStep hs i _ hi hn

theorem fades_of_trace (h : Trace (QuietStep py isDigit) d es d') (hset : d.isSet) :
    d.Fades es d' := by
  induction h
  case nil => exact .refl hset
  case cons hs _ ih =>
    have hf := fades_of_moves (moves_of_step hs.1) hset hs.2
    exact hf.cons (ih hf.isSet)

theorem left_le {count : AlarmThread → Nat} {n : Nat} (h : ∀ thread, count thread ≤ n) (i : Nat) :
    left count i d ≤ n := by
  unfold left
  cases d.threads[i]?
  case none        => exact Nat.zero_le n
  case some thread => exact h thread

-- However the UI and its alarm threads interleave: where the alarm is on, the thread that was
-- started last has not ended, unless its `Beep` has raised. While the alarm stays on, no thread
-- ends, so that reminders add up. Once it is off and not started again, no thread beeps more than
-- once or takes more than three steps.
theorem alarm_obeyed {status : Option SyncStatusRecord}
    (h : Trace (Step py isDigit) (init status) es d) :
    (d.station.ui.alarm → ∃ thread, d.threads.getLast? = some thread ∧ thread ≠ .ended) ∧
    (∀ es' d', Trace (OnStep py isDigit) d es' d' → d.Goes d') ∧
    (d.station.ui.alarm = false → ∀ es' d', Trace (QuietStep py isDigit) d es' d' →
      ∃ bs, d'.beeps = d.beeps ++ bs ∧
        ∀ i, bs.countP (·.1 = i) ≤ 1 ∧ es'.countP (·.isOf i) ≤ 3) := by
  refine ⟨?_, fun es' d' => goes_of_trace, fun hoff es' d' ht => ?_⟩
  · exact h.invariant (I := Sounds) (fun hs => Sounds.step (moves_of_step hs)) nofun
  · have hf := fades_of_trace ht (congrArg (!·) hoff)
    obtain ⟨bs, hb, hbs⟩ := hf.beeps
    refine ⟨bs, hb, fun i => ⟨?_, ?_⟩⟩
    · have hle := left_le (d := d) (fun thread => (AlarmThread.left_le thread).1) i
      exact ((Nat.le_add_right _ _).trans (hbs i)).trans hle
    · have hle := left_le (d := d) (fun thread => (AlarmThread.left_le thread).2) i
      exact ((Nat.le_add_right _ _).trans (hf.steps i)).trans hle

-- A stop of the robot sounds, and is dismissed after one beep.
theorem alarm_obeyed_sample : ∃ d : AlarmDesk, d.beeps = [(0, 880)] ∧ d.threads = [.checkHigh] ∧
    ∀ es' d', Trace (QuietStep .ascii Char.isDigit) d es' d' →
      ∃ bs, d'.beeps = d.beeps ++ bs ∧
        ∀ i, bs.countP (·.1 = i) ≤ 1 ∧ es'.countP (·.isOf i) ≤ 3 := by
  have h : Trace (Step .ascii Char.isDigit) (init (some (Station.stopAt sampleTime)))
      [.station (.poll (.ok (some (Station.stopAt sampleTime)))), .thread 0, .thread 0,
        .station (.ui .dismiss)] _ :=
    .cons ⟨rfl, rfl⟩ <| .cons ⟨trivial, rfl⟩ <| .cons ⟨trivial, rfl⟩ <| .cons ⟨trivial, rfl⟩ <|
      .nil _
  exact ⟨_, rfl, rfl, (alarm_obeyed h).2.2 rfl⟩

end AlarmDesk
end ReceivingApp
