import ReceivingApp.Lib.Journal
import ReceivingApp.RobotRunner
import ReceivingApp.Adapters.Board

open Interaction Program

namespace ReceivingApp

-- ### The journal of a pass

abbrev Answer := Except PyExc ReceiveOutcome

-- A call of the robot with its answer. The time of a status is left out.
inductive Entry
  | polled (answer : Except PyExc (List ReadyItem))
  | executed (call : ReceiveCall) (answer : Answer)
  | mutated (m : Mutation) (answer : Except PyExc Unit)
  | wrote (state : SyncState) (lastOutcome : LastOutcome) (consecutiveFailures : Nat)
      (stoppedReason : String) (answer : Except PyExc Unit)
  | closed
  | slept

def Entry.note : ∀ β, RobotCall β → Except PyExc β → List Entry
  | _, .pollReady, r         => [polled r]
  | _, .receiveItem c, r     => [executed c r]
  | _, .mutate m, r          => [mutated m r]
  | _, .writeSyncStatus s, r =>
    [wrote s.state s.lastOutcome s.consecutiveFailures s.stoppedReason r]
  | _, .close, _             => [closed]
  | _, .sleep, _             => [slept]
  | _, .utcNow, _            => []

-- The board and the store answer all calls, and the executor returns or raises an ExecutorError.
def RobotCall.Smooth (items : List ReadyItem) : ∀ β, RobotCall β → Except PyExc β → Prop
  | _, .receiveItem _, r => ∀ e, r = .error e → e.cls = .executorError
  | _, .pollReady, r     => r = .ok items
  | _, _, r              => ∃ b, r = .ok b

-- ### Turns

-- What the loop of a pass does with an item.
inductive Fate
  | received
  | noMatch
  | failed
  | skipped
  deriving DecidableEq, Repr

-- An item the loop has been through, with the executor's answer unless the item was skipped.
structure Turn where
  item   : ReadyItem
  answer : Option Answer

namespace Turn

-- Only valid items reach the executor, and all of them do.
def Proper (t : Turn) : Prop :=
  t.answer.isSome = t.item.isValid

def fate (t : Turn) : Fate :=
  match t.answer with
  | some (.ok .received) => .received
  | some (.ok _)         => .noMatch
  | some (.error _)      => .failed
  | none                 => .skipped

def itemId (t : Turn) : String :=
  t.item.call.itemId

-- The one mark an item gets: that of `mark_received`, `mark_no_match` or `mark_needs_attention`. An
-- item that is skipped for want of an item_id gets none.
def mark (t : Turn) : List Mutation :=
  match t.fate with
  | .received => [.setStatus t.itemId "RECEIVED", .move t.itemId .received]
  | .noMatch  => [.move t.itemId .noMatch]
  | .failed   => [.setStatus t.itemId "NEEDS_ATTENTION"]
  | .skipped  => if t.itemId = "" then [] else [.move t.itemId .noMatch]

-- The failures in a row after a turn, where there were `n` before it.
def failures (t : Turn) (n : Nat) : Nat :=
  match t.fate with
  | .failed  => n + 1
  | .skipped => n
  | _        => 0

-- All calls a turn makes up to the status it writes.
def calls (t : Turn) : List Entry :=
  t.answer.toList.map (.executed t.item.call) ++ t.mark.map (.mutated · (.ok ()))

def status (t : Turn) (n : Nat) : List Entry :=
  match t.fate with
  | .failed  => [.wrote .running .failure (t.failures n) "" (.ok ())]
  | .skipped => []
  | _        => [.wrote .running .success (t.failures n) "" (.ok ())]

end Turn

-- The reason a killed pass gives.
def killReason (n : Nat) : String :=
  s!"{n} consecutive executor failures — " ++ "resolve automation issue before retrying"

-- The journal of the loop, where it has been through the given turns without being killed.
def loopJournal (n : Nat) : List Turn → List Entry
  | []      => []
  | t :: ts => t.calls ++ t.status n ++ loopJournal (t.failures n) ts

def failuresAfter (ts : List Turn) : Nat :=
  ts.foldl (fun n t => t.failures n) 0

def tally (ts : List Turn) : Counters where
  received := ts.countP (·.fate = .received)
  noMatch  := ts.countP (·.fate = .noMatch)
  failed   := ts.countP (·.fate = .failed)
  skipped  := ts.countP (·.fate = .skipped)
  consecutiveFailures := failuresAfter ts

section Turns

variable {t : Turn} {ts : List Turn} {n : Nat}

theorem loopJournal_append_singleton :
    loopJournal n (ts ++ [t]) =
      loopJournal n ts ++ (t.calls ++ t.status (ts.foldl (fun n t => t.failures n) n)) := by
  induction ts generalizing n
  case nil           => simp [loopJournal]
  case cons t' ts ih => simp [loopJournal, ih]

theorem failuresAfter_append_singleton :
    failuresAfter (ts ++ [t]) = t.failures (failuresAfter ts) := by
  simp [failuresAfter]

theorem tally_append_singleton :
    tally (ts ++ [t]) = {
      received := (tally ts).received + if t.fate = .received then 1 else 0
      noMatch  := (tally ts).noMatch + if t.fate = .noMatch then 1 else 0
      failed   := (tally ts).failed + if t.fate = .failed then 1 else 0
      skipped  := (tally ts).skipped + if t.fate = .skipped then 1 else 0
      consecutiveFailures := t.failures (tally ts).consecutiveFailures
    } := by
  simp [tally, failuresAfter_append_singleton]

-- Every turn is counted once.
theorem tally_total :
    (tally ts).received + (tally ts).noMatch + (tally ts).failed + (tally ts).skipped =
      ts.length := by
  induction ts
  case nil => rfl
  case cons t ts ih =>
    simp only [tally, List.countP_cons, List.length_cons] at ih ⊢
    cases t.fate <;> simp <;> omega

end Turns

-- ### What a pass leaves in its journal

section Journal

variable {items : List ReadyItem} {l : List Entry}

-- The surroundings of a pass in which nothing but the executor raises.
def smoothEnv (items : List ReadyItem) : Program.Env RobotCall PyExc (List Entry) :=
  Journaled (RobotCall.Smooth items) Entry.note

section Calls

variable {α : Type} {Q : Unit → List Entry → Prop} {X : PyExc → List Entry → Prop}

theorem mutate_wp {m : Mutation} (h : Q () (l ++ [.mutated m (.ok ())])) :
    (perform (.mutate m) : RobotM Unit).wp (smoothEnv items) (fun _ => True) Q X l :=
  .performNoted (fun _ _ => h) nofun

-- The clock and the store answer, whatever the other calls come to.
theorem journaled_writeStatus_wp {answers : ∀ β, RobotCall β → Except PyExc β → Prop}
    {state : SyncState} {outcome : LastOutcome} {n : Nat} {reason : String}
    (hnow : ∀ e, ¬answers _ .utcNow (.error e))
    (hwrite : ∀ s e, ¬answers _ (.writeSyncStatus s) (.error e))
    (h : Q () (l ++ [.wrote state outcome n reason (.ok ())])) :
    (writeStatus state outcome n reason).wp (Journaled answers Entry.note) (fun _ => True) Q X
      l := by
  refine .bind <| .performNoted (fun now _ => ?_) (fun e he => absurd he (hnow e))
  refine .performNoted (fun _ _ => ?_) (fun e he => absurd he (hwrite _ e))
  simpa [Entry.note] using h

theorem writeStatus_wp {state : SyncState} {outcome : LastOutcome} {n : Nat} {reason : String}
    (h : Q () (l ++ [.wrote state outcome n reason (.ok ())])) :
    (writeStatus state outcome n reason).wp (smoothEnv items) (fun _ => True) Q X l := by
  refine journaled_writeStatus_wp ?_ ?_ h
  · rintro e ⟨_, ⟨⟩⟩
  · rintro s e ⟨_, ⟨⟩⟩

end Calls

-- The counters after one more turn.
def Counters.add (c : Counters) (t : Turn) : Counters where
  received := c.received + if t.fate = .received then 1 else 0
  noMatch  := c.noMatch + if t.fate = .noMatch then 1 else 0
  failed   := c.failed + if t.fate = .failed then 1 else 0
  skipped  := c.skipped + if t.fate = .skipped then 1 else 0
  consecutiveFailures := t.failures c.consecutiveFailures

-- The turn that kills a pass.
def Turn.Kills (t : Turn) (n : Nat) : Prop :=
  t.fate = .failed ∧ consecutiveFailureKill ≤ n + 1

def Turn.killJournal (t : Turn) (n : Nat) : List Entry :=
  t.calls ++ [.wrote .stopped .kill (n + 1) (killReason (n + 1)) (.ok ())]

section Turn

variable {c : Counters} {item : ReadyItem}

attribute [local simp] Turn.calls Turn.mark Turn.status Turn.fate Turn.failures Turn.itemId
  Turn.killJournal Counters.add Entry.note

-- An outcome of the executor gets its mark.
theorem routeOutcome_journal {outcome : ReceiveOutcome} :
    (routeOutcome boardApi c item.call.itemId outcome).wp (smoothEnv items) (fun _ => True)
      (fun c' l' => l' = l ++ Turn.calls ⟨item, some (.ok outcome)⟩ ∧
        { c' with consecutiveFailures := 0 } = c.add ⟨item, some (.ok outcome)⟩)
      (fun _ _ => False) (l ++ [.executed item.call (.ok outcome)]) := by
  cases outcome
  case received =>
    exact .bind <| .bind <| mutate_wp <| mutate_wp ⟨trivial, by simp, by simp⟩
  case notFound | finalizeError => exact .bind <| mutate_wp ⟨trivial, by simp, by simp⟩

-- An error of the executor gets its mark and its status, which is the last one if it kills.
theorem escalate_journal {e : PyExc} :
    (escalate boardApi c item.call.itemId).wp (smoothEnv items) (fun _ => True)
      (fun c' l' => ∃ t : Turn, t = ⟨item, some (.error e)⟩ ∧ ¬t.Kills c.consecutiveFailures ∧
        l' = l ++ (t.calls ++ t.status c.consecutiveFailures) ∧ c' = c.add t)
      (fun e' l' => e'.cls = .syncKillError ∧ ∃ t : Turn, t = ⟨item, some (.error e)⟩ ∧
        t.Kills c.consecutiveFailures ∧ l' = l ++ t.killJournal c.consecutiveFailures)
      (l ++ [.executed item.call (.error e)]) := by
  refine .bind <| mutate_wp ?_
  dsimp only
  split
  case isTrue hk =>
    exact .bind <| writeStatus_wp ⟨trivial, rfl, _, rfl, ⟨rfl, hk⟩, by simp [killReason]⟩
  case isFalse hk =>
    exact .bind <| writeStatus_wp ⟨trivial, _, rfl, fun h => hk h.2, by simp, by simp⟩

theorem receiveNext_journal :
    (receiveNext boardApi c item).wp (smoothEnv items) (fun _ => True)
      (fun c' l' => ∃ t : Turn, t.item = item ∧ t.Proper ∧ ¬t.Kills c.consecutiveFailures ∧
        l' = l ++ (t.calls ++ t.status c.consecutiveFailures) ∧ c' = c.add t)
      (fun e l' => e.cls = .syncKillError ∧ ∃ t : Turn, t.item = item ∧ t.Proper ∧
        t.Kills c.consecutiveFailures ∧ l' = l ++ t.killJournal c.consecutiveFailures) l := by
  unfold receiveNext
  split
  case isTrue hv =>
    have hproper (a : Answer) : (⟨item, some a⟩ : Turn).Proper := hv.symm
    refine .tryCatch <| .bind <| .performNoted ?ok ?err
    case ok =>
      intro outcome _
      refine .bind <| routeOutcome_journal.mono ?_ (fun _ _ _ h => h.elim)
      rintro c' _ _ ⟨rfl, hc⟩
      refine .bind <| writeStatus_wp
        ⟨trivial, ⟨item, some (.ok outcome)⟩, rfl, hproper _, ?_, ?_, hc⟩
      · cases outcome <;> exact fun h => nomatch h.1
      · cases outcome <;> simp
    case err =>
      intro e he
      rw [if_pos (he e rfl)]
      refine escalate_journal.mono ?_ ?_
      · rintro _ _ _ ⟨t, rfl, h⟩
        exact ⟨_, rfl, hproper _, h⟩
      · rintro _ _ _ ⟨he, t, rfl, h⟩
        exact ⟨he, _, rfl, hproper _, h⟩
  case isFalse hv =>
    have hproper : (⟨item, none⟩ : Turn).Proper := (Bool.eq_false_iff.mpr hv).symm
    have hkills : ¬(⟨item, none⟩ : Turn).Kills c.consecutiveFailures := fun h => nomatch h.1
    split
    case isTrue hid =>
      have hid' : item.call.itemId ≠ "" := hid
      exact .bind <| mutate_wp
        ⟨trivial, ⟨item, none⟩, rfl, hproper, hkills, by simp [hid'], by simp⟩
    case isFalse hid =>
      have hid' : item.call.itemId = "" := not_ne_iff.mp hid
      exact ⟨trivial, ⟨item, none⟩, rfl, hproper, hkills, by simp [hid'], by simp⟩

end Turn

-- The loop has been through the given turns and stands before the rest of its items.
structure Stands (py : PyStd) (items : List ReadyItem) (turns : List Turn)
    (rest : List ReadyItem) : Prop where
  proper   : ∀ t ∈ turns, t.Proper
  order    : turns.map (·.item) ++ rest = sortById py items
  survives : ∀ ts t ts', turns = ts ++ t :: ts' → ¬t.Kills (failuresAfter ts)

-- The poll and the status at the start.
def opening (items : List ReadyItem) : List Entry :=
  [.polled (.ok items), .wrote .running .none 0 "" (.ok ())]

def closing (turns : List Turn) : Entry :=
  .wrote .stopped (if 0 < (tally turns).failed then .failure else .success) (failuresAfter turns)
    "" (.ok ())

theorem Stands.next {py : PyStd} {turns : List Turn} {t : Turn} {rest : List ReadyItem}
    (h : Stands py items turns (t.item :: rest)) (ht : t.Proper)
    (hk : ¬t.Kills (failuresAfter turns)) : Stands py items (turns ++ [t]) rest where
  proper   := by
    intro t' ht'
    rcases List.mem_append.mp ht' with ht' | ht'
    · exact h.proper t' ht'
    · exact List.mem_singleton.mp ht' ▸ ht
  order    := by simpa using h.order
  survives := by
    intro ts t' ts' he
    rcases List.eq_nil_or_concat' ts' with rfl | ⟨ts'', t'', rfl⟩
    · have ⟨hts, ht'⟩ := List.append_inj' he rfl
      exact hts ▸ List.singleton_inj.mp ht' ▸ hk
    · have he : turns ++ [t] = (ts ++ t' :: ts'') ++ [t''] := by simpa using he
      exact h.survives ts t' ts'' (List.append_inj' he rfl).1

-- A pass that returns has been through all items.
def Finishes (py : PyStd) (items : List ReadyItem) (result : ReceiveResult) (l : List Entry) :
    Prop :=
  ∃ turns, Stands py items turns [] ∧ result = (tally turns).toReceiveResult ∧
    l = opening items ++ loopJournal 0 turns ++ [closing turns]

-- A pass that raises has stopped at the turn that kills it.
def IsKilled (py : PyStd) (items : List ReadyItem) (e : PyExc) (l : List Entry) : Prop :=
  e.cls = .syncKillError ∧ ∃ (turns : List Turn) (t : Turn) (rest : List ReadyItem),
    Stands py items turns (t.item :: rest) ∧ t.Proper ∧ t.Kills (failuresAfter turns) ∧
      l = opening items ++ loopJournal 0 turns ++ t.killJournal (failuresAfter turns)

theorem receivePending_journal {py : PyStd} :
    (receivePending py boardApi).wp (smoothEnv items) (fun _ => True) (Finishes py items)
      (IsKilled py items) [] := by
  refine .bind <| .perform trivial ?ok ?err
  case err => rintro e _ ⟨⟨⟩, _⟩
  case ok =>
    rintro _ _ ⟨⟨⟩, rfl⟩
    refine ⟨trivial, .bind <| writeStatus_wp <| .bind ?_⟩
    have hloop := wp.foldlM (E := smoothEnv items) (I := fun _ => True) (f := receiveNext boardApi)
      (J := fun rest c l => ∃ turns, Stands py items turns rest ∧ c = tally turns ∧
        l = opening items ++ loopJournal 0 turns) (X := IsKilled py items)
      (l := sortById py items) (a := ⟨⟨0, 0, 0, 0⟩, 0⟩) (s := opening items)
      ?turn ⟨[], ⟨by simp, rfl, by simp⟩, rfl, by simp [loopJournal]⟩ (fun _ _ _ => trivial)
    case turn =>
      rintro item rest _ _ ⟨turns, hs, rfl, rfl⟩
      refine receiveNext_journal.mono ?_ ?_
      · rintro _ _ _ ⟨t, rfl, ht, hk, rfl, rfl⟩
        refine ⟨turns ++ [t], hs.next ht hk, ?_, ?_⟩
        · rw [tally_append_singleton]
          rfl
        · rw [loopJournal_append_singleton, List.append_assoc]
          rfl
      · rintro e _ _ ⟨he, t, rfl, ht, hk, rfl⟩
        exact ⟨he, turns, t, rest, hs, ht, hk, rfl⟩
    refine hloop.mono ?_ (fun _ _ _ h => h)
    rintro _ _ _ ⟨turns, hs, rfl, rfl⟩
    exact .bind <| writeStatus_wp ⟨trivial, turns, hs, rfl, rfl⟩

end Journal

-- ### Playing a pass

-- The surroundings in which the executor and the board answer as given.
def RobotCall.answer (items : List ReadyItem) (executor : ReceiveCall → Answer)
    (board : Mutation → Except PyExc Unit) : ∀ β, RobotCall β → Except PyExc β
  | _, .pollReady         => .ok items
  | _, .mutate m          => board m
  | _, .receiveItem c     => executor c
  | _, .close             => .ok ()
  | _, .writeSyncStatus _ => .ok ()
  | _, .utcNow            => .ok sampleTime
  | _, .sleep             => .ok ()

-- What a pass in them comes to, and its journal.
def playPass (items : List ReadyItem) (executor : ReceiveCall → Answer)
    (board : Mutation → Except PyExc Unit) : Except PyExc ReceiveResult × List Entry :=
  (receivePending .ascii boardApi).run
    (journaled (RobotCall.answer items executor board) Entry.note) []

theorem steps_playPass {items : List ReadyItem} {executor : ReceiveCall → Answer}
    (h : ∀ c e, executor c = .error e → e.cls = .executorError) :
    Steps (smoothEnv items) [] (receivePending .ascii boardApi)
      (playPass items executor (fun _ => .ok ())).2
      (ofExcept (playPass items executor (fun _ => .ok ())).1) := by
  apply steps_journaled
  intro β op
  cases op
  case receiveItem c => exact h c
  case pollReady     => rfl
  all_goals exact ⟨_, rfl⟩

def ExecutorError : PyExc := ⟨.executorError, "wizard failed"⟩

-- A batch that is not in order, with an item that lacks its serial.
def ReadyItem.samples : List ReadyItem := [
  ⟨some "I2", some "P", some "102", some "A", some "S2"⟩,
  ⟨some "I3", some "P", some "x", some "A", some ""⟩,
  ⟨some "I1", some "P", some "101", some "A", some "S1"⟩
]

end ReceivingApp
