import ReceivingApp.Lib.Interference
import ReceivingApp.Theorems.Repeats

open Interaction Program Relational

namespace ReceivingApp

-- ### What the board says of receipts

namespace RobotWorld

-- The executor has returned "received" for the item.
def Received (w : RobotWorld) (itemId : String) : Prop :=
  ∃ a ∈ w.attempts, a.call.itemId = itemId ∧ a.outcome = some .received

-- The status RECEIVED is not shown by an item that was not received, and is shown by all items that
-- have been moved away as received.
structure Truthful (w : RobotWorld) : Prop where
  shown   : ∀ item ∈ w.board.rows, item.group = .received → item.status = "RECEIVED"
  receipt : ∀ item ∈ w.board.rows, item.status = "RECEIVED" → w.Received item.itemId

-- People and the automation mark no receipts, and take no mark back: they neither give an item the
-- status RECEIVED nor take it from one, and move none to the RECEIVED group. An item that they add
-- is none that the robot has attempted to receive, for the board gives an item_id only once.
def LeavesReceipts (w : RobotWorld) (board : Board) : Prop :=
  ∀ item' ∈ board.rows,
    (∃ item ∈ w.board.rows, item.itemId = item'.itemId ∧
      (item'.status = "RECEIVED" ↔ item.status = "RECEIVED") ∧
      (item'.group = .received → item.group = .received)) ∨
    (item'.status ≠ "RECEIVED" ∧ item'.group ≠ .received ∧
      ∀ a ∈ w.attempts, a.call.itemId ≠ item'.itemId)

def Edits (w w' : RobotWorld) : Prop :=
  ∃ board, w.LeavesReceipts board ∧ w' = { w with board }

-- The surroundings of a robot while nobody else does anything.
def Undisturbed : Env RobotCall PyExc RobotWorld := fun
  | _, .sleep, w, _, w' => w' = w
  | _, op, w, r, w'     => Answers _ op w r w'

-- The board may be edited before any call.
abbrev Supervised : Env RobotCall PyExc RobotWorld :=
  Among Undisturbed Edits

variable {w w' : RobotWorld} {id : String} {ids : List String}

theorem Received.of_attempts (h : w.Received id) (ha : w.attempts ⊆ w'.attempts) :
    w'.Received id := by
  obtain ⟨a, hm, ht⟩ := h
  exact ⟨a, ha hm, ht⟩

theorem Truthful.of_board (h : w.Truthful) (hb : w'.board = w.board)
    (ha : w.attempts ⊆ w'.attempts) : w'.Truthful where
  shown item hi hg   := h.shown item (hb ▸ hi) hg
  receipt item hi hs := (h.receipt item (hb ▸ hi) hs).of_attempts ha

theorem Truthful.edited (h : w.Truthful) (he : w.Edits w') : w'.Truthful := by
  obtain ⟨board, hb, rfl⟩ := he
  refine ⟨fun item' hi hg => ?_, fun item' hi hs => ?_⟩
  all_goals rcases hb item' hi with ⟨item, hi₀, hid, hstatus, hgroup⟩ | ⟨hstatus, hgroup, -⟩
  · exact hstatus.mpr (h.shown item hi₀ (hgroup hg))
  · exact absurd hg hgroup
  · exact hid ▸ h.receipt item hi₀ (hstatus.mp hs)
  · exact absurd hs hstatus

-- ### Mutations

-- The items of the given ids have not been moved away as received.
def Waiting (ids : List String) (w : RobotWorld) : Prop :=
  ∀ item ∈ w.board.rows, item.itemId ∈ ids → item.group ≠ .received

-- The item was received, and shows the status of it.
structure Stamped (id : String) (w : RobotWorld) : Prop where
  receipt : w.Received id
  shown   : ∀ item ∈ w.board.rows, item.itemId = id → item.status = "RECEIVED"

theorem Waiting.mono {ids' : List String} (h : w.Waiting ids) (hs : ids' ⊆ ids) : w.Waiting ids' :=
  fun item hi hm => h item hi (hs hm)

theorem Waiting.edited (h : w.Waiting ids) (he : w.Edits w') : w'.Waiting ids := by
  obtain ⟨board, hb, rfl⟩ := he
  intro item' hi hm hg
  rcases hb item' hi with ⟨item, hi₀, hid, -, hgroup⟩ | ⟨-, hgroup, -⟩
  · exact h item hi₀ (hid ▸ hm) (hgroup hg)
  · exact hgroup hg

theorem Received.edited (h : w.Received id) (he : w.Edits w') : w'.Received id := by
  obtain ⟨board, -, rfl⟩ := he
  exact h

-- An item of that id is the one that the robot has received, and not one added since.
theorem Stamped.edited (h : w.Stamped id) (he : w.Edits w') : w'.Stamped id := by
  refine ⟨h.receipt.edited he, ?_⟩
  obtain ⟨board, hb, rfl⟩ := he
  intro item' hi hm
  rcases hb item' hi with ⟨item, hi₀, hid, hstatus, -⟩ | ⟨-, -, hnew⟩
  · exact hstatus.mpr (h.shown item hi₀ (hid.trans hm))
  · obtain ⟨a, ha, hcall, -⟩ := h.receipt
    exact absurd (hcall.trans hm.symm) (hnew a ha)

-- A row after a mutation is one from before, or the mutated one.
theorem mem_mutate_rows {m : Mutation} {board : Board} {item : BoardItem}
    (h : item ∈ (board.mutate m).rows) :
    ∃ item₀ ∈ board.rows, item₀.itemId = item.itemId ∧
      ((item₀.itemId ≠ m.itemId ∧ item = item₀) ∨
        (item₀.itemId = m.itemId ∧ item = item₀.mutate m)) := by
  obtain ⟨item₀, hi, rfl⟩ := Table.mem_modify.mp h
  refine ⟨item₀, hi, ?_⟩
  split
  case isTrue he =>
    exact ⟨(item₀.itemId_mutate m).symm, .inr ⟨by simpa using he, rfl⟩⟩
  case isFalse he => exact ⟨rfl, .inl ⟨by simpa using he, rfl⟩⟩

-- A status may be set for an item that waits, and RECEIVED for one that was received.
theorem Truthful.setStatus {label : String} (h : w.Truthful) (hw : w.Waiting (id :: ids))
    (hl : label = "RECEIVED" → w.Received id) (hb : w'.board = w.board.mutate (.setStatus id label))
    (ha : w'.attempts = w.attempts) :
    w'.Truthful ∧ w'.Waiting (id :: ids) ∧ (label = "RECEIVED" → w'.Stamped id) := by
  have hcases {item : BoardItem} (hi : item ∈ w'.board.rows) :
      ∃ item₀ ∈ w.board.rows, item₀.itemId = item.itemId ∧ item₀.group = item.group ∧
        (item₀.itemId ≠ id → item = item₀) ∧ (item₀.itemId = id → item.status = label) := by
    have ⟨item₀, hi₀, he, hm⟩ := mem_mutate_rows (hb ▸ hi)
    refine ⟨item₀, hi₀, he, ?_⟩
    rcases hm with ⟨hne, rfl⟩ | ⟨heq, rfl⟩
    · exact ⟨rfl, fun _ => rfl, fun h => absurd h hne⟩
    · exact ⟨rfl, fun h => absurd heq h, fun _ => rfl⟩
  refine ⟨⟨fun item hi hg => ?_, fun item hi hs => ?_⟩, fun item hi hm => ?_,
    fun heq => ⟨(hl heq).of_attempts (by simp [ha]), fun item hi he => ?_⟩⟩
  all_goals obtain ⟨item₀, hi₀, he₀, hg₀, hother, hself⟩ := hcases hi
  · have hne : item₀.itemId ≠ id := fun heq => hw item₀ hi₀ (by simp [heq]) (hg₀.trans hg)
    cases hother hne
    exact h.shown item hi₀ hg
  · by_cases heq : item₀.itemId = id
    case pos =>
      have hr := hl ((hself heq).symm.trans hs)
      exact (he₀.symm.trans heq ▸ hr).of_attempts (by simp [ha])
    case neg =>
      cases hother heq
      exact (h.receipt item hi₀ hs).of_attempts (by simp [ha])
  · exact hg₀ ▸ hw item₀ hi₀ (he₀ ▸ hm)
  · exact (hself (he₀.trans he)).trans heq

-- An item may be moved, and to the RECEIVED group where it shows the status.
theorem Truthful.move {group : BoardGroup} (h : w.Truthful) (hw : w.Waiting ids) (hn : id ∉ ids)
    (hg : group = .received → w.Stamped id) (hb : w'.board = w.board.mutate (.move id group))
    (ha : w'.attempts = w.attempts) : w'.Truthful ∧ w'.Waiting ids := by
  have hcases {item : BoardItem} (hi : item ∈ w'.board.rows) :
      ∃ item₀ ∈ w.board.rows, item₀.itemId = item.itemId ∧ item₀.status = item.status ∧
        (item₀.itemId ≠ id → item = item₀) ∧ (item₀.itemId = id → item.group = group) := by
    have ⟨item₀, hi₀, he, hm⟩ := mem_mutate_rows (hb ▸ hi)
    refine ⟨item₀, hi₀, he, ?_⟩
    rcases hm with ⟨hne, rfl⟩ | ⟨heq, rfl⟩
    · exact ⟨rfl, fun _ => rfl, fun h => absurd h hne⟩
    · exact ⟨rfl, fun h => absurd heq h, fun _ => rfl⟩
  refine ⟨⟨fun item hi hr => ?_, fun item hi hs => ?_⟩, fun item hi hm => ?_⟩
  all_goals obtain ⟨item₀, hi₀, he₀, hs₀, hother, hself⟩ := hcases hi
  · by_cases heq : item₀.itemId = id
    case pos => exact hs₀ ▸ (hg ((hself heq).symm.trans hr)).shown item₀ hi₀ heq
    case neg =>
      cases hother heq
      exact h.shown item hi₀ hr
  · exact he₀ ▸ (h.receipt item₀ hi₀ (hs₀ ▸ hs)).of_attempts (by simp [ha])
  · have hne : item₀.itemId ≠ id := by
      rintro rfl
      exact hn (he₀ ▸ hm)
    cases hother hne
    exact hw item hi₀ hm

-- ### The rules of a pass

section Rules

variable {py : PyStd}

-- Where the pass stands before the given items.
structure Ahead (ids : List String) (w : RobotWorld) : Prop where
  truthful : w.Truthful
  waiting  : w.Waiting ids
  nodup    : ids.Nodup

-- Only the executor raises an ExecutorError.
structure Fails (ids : List String) (e : PyExc) (w : RobotWorld) : Prop where
  cls   : e.cls ≠ .executorError
  ahead : w.Ahead ids

-- A part of a pass that gets past an item, or raises.
abbrev Passes {α : Type} (p : RobotM α) (ids : List String) (w : RobotWorld) : Prop :=
  p.wp Supervised Truthful (fun _ => Ahead ids) (Fails ids) w

theorem Ahead.tail (h : w.Ahead (id :: ids)) : w.Ahead ids :=
  ⟨h.truthful, h.waiting.mono (List.subset_cons_self _ _), (List.nodup_cons.mp h.nodup).2⟩

theorem Ahead.of_board (h : w.Ahead ids) (hb : w'.board = w.board)
    (ha : w.attempts ⊆ w'.attempts) : w'.Ahead ids :=
  ⟨h.truthful.of_board hb ha, fun item hi => h.waiting item (hb ▸ hi), h.nodup⟩

theorem Ahead.edited (h : w.Ahead ids) (he : w.Edits w') : w'.Ahead ids :=
  ⟨h.truthful.edited he, h.waiting.edited he, h.nodup⟩

theorem Passes.bind {α β : Type} {p : RobotM α} {f : α → RobotM β} (hp : Passes p ids w)
    (hf : ∀ a w, w.Ahead ids → Passes (f a) ids w) : Passes (p >>= f) ids w :=
  wp.bind <| hp.mono (fun a w _ h => hf a w h) (fun _ _ _ h => h)

theorem passes_pure {α : Type} {a : α} (h : w.Ahead ids) : Passes (.pure a : RobotM α) ids w :=
  ⟨h.truthful, h⟩

-- A mutation raises whether it has been carried out or not. It meets the board as edited by then.
theorem mutate_wp {m : Mutation} {Q : RobotWorld → Prop} (h : w.Ahead ids)
    (hQ : ∀ w₁ w', w.Edits w₁ → w'.attempts = w₁.attempts → w'.board = w₁.board.mutate m →
      w'.Ahead ids ∧ Q w') :
    (perform (.mutate m) : RobotM Unit).wp Supervised Truthful (fun _ w' => w'.Ahead ids ∧ Q w')
      (Fails ids) w := by
  refine .among h.truthful fun w₁ hedit => ?_
  have h₁ : w₁.Ahead ids := h.edited hedit
  refine .perform h₁.truthful ?_ ?_
  · rintro _ w' (⟨-, rfl⟩ | ⟨⟨_, ⟨⟩, -⟩, -⟩)
    have hq := hQ w₁ (w₁.mutate m) hedit rfl rfl
    exact ⟨hq.1.truthful, hq⟩
  · rintro e w' (⟨⟨⟩, -⟩ | ⟨⟨_, ⟨⟩, he⟩, applied, rfl⟩)
    have ha : (w₁.mutateFails m applied).Ahead ids := by
      cases applied
      case false => exact h₁.of_board rfl (List.Subset.refl _)
      case true  => exact (hQ w₁ (w₁.mutateFails m true) hedit rfl rfl).1
    exact ⟨ha.truthful, he, ha⟩

theorem writeStatus_wp {state : SyncState} {outcome : LastOutcome} {n : Nat} {reason : String}
    (h : w.Ahead ids) : Passes (writeStatus state outcome n reason) ids w := by
  refine wp.bind <| .among h.truthful fun w₁ hedit => ?_
  have h₁ : w₁.Ahead ids := h.edited hedit
  refine .perform h₁.truthful ?now ?noClock
  case noClock =>
    rintro e w' ⟨⟨_, ⟨⟩⟩, -⟩
  case now =>
    rintro now w' ⟨-, rfl⟩
    refine ⟨h₁.truthful, .among h₁.truthful fun w₂ hedit => ?_⟩
    have h₂ : w₂.Ahead ids := h₁.edited hedit
    have hwritten {status : Option SyncStatusRecord} : Ahead ids { w₂ with syncStatus := status } :=
      h₂.of_board rfl (List.Subset.refl _)
    refine .perform h₂.truthful ?_ ?_
    · rintro _ w' (⟨-, rfl⟩ | ⟨⟨_, ⟨⟩, -⟩, -⟩)
      exact ⟨hwritten.truthful, hwritten⟩
    · rintro e w' (⟨⟨⟩, -⟩ | ⟨⟨_, ⟨⟩, he⟩, rfl⟩)
      exact ⟨h₂.truthful, he, h₂⟩

theorem move_wp {group : BoardGroup} (h : w.Ahead (id :: ids))
    (hg : group = .received → w.Stamped id) :
    Passes (perform (.mutate (.move id group))) ids w := by
  have ⟨hn, hd⟩ := List.nodup_cons.mp h.nodup
  refine (mutate_wp (Q := fun _ => True) h.tail fun w₁ w' he ha hb => ?_).mono
    (fun _ _ _ h => h.1) (fun _ _ _ h => h)
  have h₁ : w₁.Ahead (id :: ids) := h.edited he
  have ⟨ht, hw⟩ := h₁.truthful.move h₁.tail.waiting hn (fun hr => (hg hr).edited he) hb ha
  exact ⟨⟨ht, hw, hd⟩, trivial⟩

theorem setStatus_wp {label : String} (h : w.Ahead (id :: ids))
    (hl : label = "RECEIVED" → w.Received id) :
    (perform (.mutate (.setStatus id label)) : RobotM Unit).wp Supervised Truthful
      (fun _ w' => w'.Ahead (id :: ids) ∧ (label = "RECEIVED" → w'.Stamped id))
      (Fails (id :: ids)) w := by
  refine mutate_wp h fun w₁ w' he ha hb => ?_
  have h₁ : w₁.Ahead (id :: ids) := h.edited he
  have ⟨ht, hw, hs⟩ := h₁.truthful.setStatus h₁.waiting (fun hr => (hl hr).edited he) hb ha
  exact ⟨⟨ht, hw, h₁.nodup⟩, hs⟩

theorem Fails.tail {e : PyExc} (h : Fails (id :: ids) e w) : Fails ids e w :=
  ⟨h.cls, h.ahead.tail⟩

-- The status comes first, so that the item shows it once it is moved.
theorem passes_markReceived (h : w.Ahead (id :: ids)) (hr : w.Received id) :
    Passes (boardApi.markReceived id) ids w := by
  refine wp.bind <| (setStatus_wp h fun _ => hr).mono (fun _ w' _ hw => ?_) (fun _ _ _ h => h.tail)
  exact move_wp hw.1 fun _ => hw.2 rfl

theorem passes_markNoMatch (h : w.Ahead (id :: ids)) : Passes (boardApi.markNoMatch id) ids w := by
  have hmove : BoardGroup.noMatch = .received → w.Stamped id := nofun
  exact move_wp h hmove

theorem passes_markNeedsAttention (h : w.Ahead (id :: ids)) :
    Passes (boardApi.markNeedsAttention id) ids w := by
  have hlabel : "NEEDS_ATTENTION" = "RECEIVED" → w.Received id := fun he => absurd he (by decide)
  exact (setStatus_wp h hlabel).mono (fun _ _ _ h => h.1.tail) (fun _ _ _ h => h.tail)

theorem passes_escalate {c : Counters} (h : w.Ahead (id :: ids)) :
    Passes (escalate boardApi c id) ids w := by
  refine (passes_markNeedsAttention h).bind fun _ w h => ?_
  dsimp only
  split
  case isTrue =>
    refine (writeStatus_wp h).bind fun _ w h => ?_
    exact ⟨h.truthful, nofun, h⟩
  case isFalse => exact (writeStatus_wp h).bind fun _ w h => passes_pure h

theorem attempts_answer (w : RobotWorld) (call : ReceiveCall) (outcome : ReceiveOutcome) :
    ∃ a, a.call = call ∧ a.outcome = some outcome ∧
      (w.answer call outcome).attempts = w.attempts ++ [a] ∧
      (w.answer call outcome).board = w.board := by
  cases outcome <;> exact ⟨_, rfl, rfl, rfl, rfl⟩

-- What is done with an outcome of the executor.
theorem passes_routeOutcome {c : Counters} {call : ReceiveCall} {outcome : ReceiveOutcome}
    (h : w.Ahead (call.itemId :: ids)) :
    Passes (routeOutcome boardApi c call.itemId outcome) ids (w.answer call outcome) := by
  obtain ⟨a, hc, ho, hattempts, hboard⟩ := attempts_answer w call outcome
  have ha : (w.answer call outcome).Ahead (call.itemId :: ids) :=
    h.of_board hboard (by simp [hattempts])
  cases outcome
  case received =>
    have hr : (w.answer call .received).Received call.itemId :=
      ⟨a, by simp [hattempts], congrArg _ hc, ho⟩
    exact (passes_markReceived ha hr).bind fun _ w h => passes_pure h
  case notFound | finalizeError => exact (passes_markNoMatch ha).bind fun _ w h => passes_pure h

theorem passes_receiveNext {c : Counters} {item : ReadyItem}
    (h : w.Ahead (item.call.itemId :: ids)) : Passes (receiveNext boardApi c item) ids w := by
  unfold receiveNext
  split
  case isFalse =>
    split
    case isTrue  => exact (passes_markNoMatch h).bind fun _ w h => passes_pure h
    case isFalse => exact passes_pure h.tail
  case isTrue =>
    have hthrow {e : PyExc} {w : RobotWorld} (h : Fails ids e w) :
        Passes (if e.cls = .executorError then escalate boardApi c item.call.itemId
          else .throw e) ids w := by
      rw [if_neg h.cls]
      exact ⟨h.ahead.truthful, h⟩
    refine .tryCatch <| .bind <| .among h.truthful fun w₁ hedit => ?_
    have h₁ : w₁.Ahead (item.call.itemId :: ids) := h.edited hedit
    refine .perform h₁.truthful ?ok ?err
    case ok =>
      rintro outcome w' (⟨_, ⟨⟩, rfl⟩ | ⟨_, ⟨⟩, _⟩)
      have hroute : Passes (routeOutcome boardApi c item.call.itemId outcome >>= fun c =>
          writeStatus .running .success 0 "" >>= fun _ =>
            (.pure { c with consecutiveFailures := 0 } : RobotM Counters)) ids
          (w₁.answer item.call outcome) :=
        (passes_routeOutcome h₁).bind fun c w h =>
          (writeStatus_wp h).bind fun _ w h => passes_pure h
      exact ⟨hroute.now, hroute.mono (fun _ _ _ h => h) (fun e w _ h => hthrow h)⟩
    case err =>
      rintro e w' (⟨_, ⟨⟩, _⟩ | ⟨_, ⟨⟩, rfl⟩)
      have ha : (w₁.attempt item.call none).Ahead (item.call.itemId :: ids) :=
        h₁.of_board rfl (List.subset_append_left _ _)
      refine ⟨ha.truthful, ?_⟩
      split
      case isTrue     => exact passes_escalate ha
      case isFalse hc => exact ⟨ha.truthful, hc, ha.tail⟩

theorem Ahead.ofPoll (h : w.Truthful) : w.Ahead (Board.ids (sortById py w.board.readyItems)) where
  truthful := h
  nodup    := ids_sortById.nodup_iff.mpr Board.nodup_ids_readyItems
  waiting item hi hm := by
    have hm : item.itemId ∈ Board.ids w.board.readyItems := ids_sortById.mem_iff.mp hm
    have ⟨item', hi', he, hg⟩ := Board.mem_ids_readyItems hm
    have heq : item' = item :=
      Table.eq_of_key_eq hi' hi (congrArg some he) rfl
    simp [← heq, hg]

theorem receivePending_truthful (h : w.Truthful) :
    (receivePending py boardApi).wp Supervised Truthful (fun _ => Truthful) (fun _ => Truthful)
      w := by
  refine .bind <| .among h fun w₁ hedit => ?_
  have h₁ : w₁.Truthful := h.edited hedit
  refine .perform h₁ ?ok ?err
  case err =>
    rintro e w' ⟨rfl, -⟩
    exact ⟨h₁, h₁⟩
  case ok =>
    rintro items w' ⟨rfl, hr | ⟨_, ⟨⟩, _⟩⟩
    cases hr
    refine ⟨h₁, ?_⟩
    have hdone (c : Counters) {w : RobotWorld} (h : w.Ahead []) :
        Passes (writeStatus .stopped (if 0 < c.failed then .failure else .success)
          c.consecutiveFailures "" >>= fun _ => (.pure c.toReceiveResult : RobotM ReceiveResult))
          [] w :=
      (writeStatus_wp h).bind fun _ w h => passes_pure h
    have hloop (items : List ReadyItem) {c : Counters} {w : RobotWorld}
        (h : w.Ahead (Board.ids items)) :
        (items.foldlM (receiveNext boardApi) c).wp Supervised Truthful (fun _ => Ahead [])
          (fun _ => Truthful) w :=
      wp.foldlM (J := fun items _ w => w.Ahead (Board.ids items))
        (fun item items c w h => (passes_receiveNext h).mono (fun _ _ _ h => h)
          (fun _ _ _ h => h.ahead.truthful)) h (fun _ _ h => h.truthful)
    have hahead : w'.Ahead (Board.ids (sortById py w'.board.readyItems)) := .ofPoll h₁
    refine .bind <| (writeStatus_wp hahead).mono (fun _ w _ h => ?_)
      (fun _ _ _ h => h.ahead.truthful)
    refine .bind <| (hloop _ h).mono (fun c w _ h => ?_) (fun _ _ _ h => h)
    exact (hdone c h).mono (fun _ _ _ h => h.truthful) (fun _ _ _ h => h.ahead.truthful)

theorem pollLoop_truthful {n : Nat} (h : w.Truthful) :
    (pollLoop py boardApi n).wp Supervised Truthful (fun _ => Truthful) (fun _ => Truthful) w := by
  refine pollLoop_keeps (fun _ => id) (fun _ => receivePending_truthful) ?close ?sleep n h
  all_goals
    rintro w _ _ ⟨w₁, hedit, rfl⟩ h
    exact h.edited hedit

end Rules

end RobotWorld

-- ### Runs of the robot

-- The robot may be killed wherever it stands, and is then started again.
def RobotEvent.Supervised (py : PyStd) (w : RobotWorld) (e : RobotEvent) (w' : RobotWorld) : Prop :=
  match e with
  | process n => ∃ q, Steps RobotWorld.Supervised w (pollLoop py boardApi n) w' q
  | outside   => w.Edits w'

theorem RobotEvent.Supervised.truthful {py : PyStd} {e : RobotEvent} {w w' : RobotWorld}
    (hs : Supervised py w e w') (h : w.Truthful) : w'.Truthful := by
  cases e
  case process n =>
    have ⟨q, hs⟩ := hs
    exact (RobotWorld.pollLoop_truthful h).invariant hs
  case outside => exact h.edited hs

-- Whichever calls fail, and wherever the robot is killed and started again: no item lies in the
-- RECEIVED group without the status RECEIVED, and none shows that status unless the executor has
-- received it.
theorem board_truthful {py : PyStd} {board : Board}
    {openIds : String → String → Finset Int} {es : List RobotEvent} {w : RobotWorld}
    (hb : ∀ item ∈ board.rows, item.status ≠ "RECEIVED" ∧ item.group ≠ .received)
    (h : Trace (RobotEvent.Supervised py) (.init board openIds) es w) :
    ∀ item ∈ w.board.rows,
      (item.group = .received → item.status = "RECEIVED") ∧
      (item.status = "RECEIVED" →
        ∃ a ∈ w.attempts, a.call.itemId = item.itemId ∧ a.outcome = some .received) := by
  have hw : (RobotWorld.init board openIds).Truthful :=
    ⟨fun item hi hg => absurd hg (hb item hi).2, fun item hi hs => absurd hs (hb item hi).1⟩
  have ht : w.Truthful := h.invariant RobotEvent.Supervised.truthful hw
  exact fun item hi => ⟨ht.shown item hi, ht.receipt item hi⟩

-- ### A move that fails

namespace RobotWorld

theorem edits_automate (w : RobotWorld) : w.Edits { w with board := w.board.automate } := by
  refine ⟨_, fun item' hm => .inl ?_, rfl⟩
  obtain ⟨item, hi, rfl⟩ := Table.mem_modify.mp hm
  rw [if_pos rfl]
  refine ⟨item, hi, (Option.some.inj (BoardItem.key_routed item)).symm, ?_⟩
  unfold BoardItem.routed
  split
  case isTrue  => exact ⟨.rfl, nofun⟩
  case isFalse => exact ⟨.rfl, id⟩

-- The automation may come in before any call, and not only in the pauses.
def playAutomated (executor : ReceiveCall → Except PyExc ReceiveOutcome)
    (broken : Mutation → RobotWorld → Bool) : Handler RobotCall PyExc RobotWorld := fun
  | _, .sleep, w => play executor broken _ .sleep w
  | _, op, w     => play executor broken _ op { w with board := w.board.automate }

theorem supervised_playAutomated {executor : ReceiveCall → Except PyExc ReceiveOutcome}
    {broken : Mutation → RobotWorld → Bool} (β : Type) (op : RobotCall β) (w : RobotWorld) :
    Supervised β op w (playAutomated executor broken β op w).1
      (playAutomated executor broken β op w).2 := by
  have h := @answers_play executor broken β op { w with board := w.board.automate }
  cases op
  case sleep => exact ⟨_, w.edits_automate, rfl⟩
  all_goals exact ⟨_, w.edits_automate, h⟩

end RobotWorld

def RobotWorld.inTurn : RobotWorld :=
  .init ⟨[⟨"I1", "P", some "101", some "A", some "S1", "READY", .ready⟩,
    ⟨"I2", "P", some "102", some "B", some "S2", "READY", .ready⟩], by simp [BoardItem.key]⟩
    (fun _ _ => ∅)

-- The first item fails, and the automation moves it before the pass goes on. The second item is
-- received, and then not moved. It stays in READY with its status, so that the next process takes
-- it up again.
def RobotWorld.failMove : Handler RobotCall PyExc RobotWorld :=
  playAutomated
    (fun call => if call.itemId = "I1" then .error ⟨.executorError, ""⟩ else .ok .received)
    (fun m w => m = .move "I2" .received ∧ w.unmarked = [])

def RobotWorld.half : RobotWorld := ((pollLoop .ascii boardApi 1).run failMove inTurn).2

def RobotWorld.whole : RobotWorld := ((pollLoop .ascii boardApi 1).run failMove half).2

theorem board_truthful_sample :
    RobotWorld.half.board.rows.map (fun item => (item.status, item.group)) =
      [("NEEDS_ATTENTION", .attention), ("RECEIVED", .ready)] ∧
    RobotWorld.whole.board.rows.map (fun item => (item.status, item.group)) =
      [("NEEDS_ATTENTION", .attention), ("RECEIVED", .received)] ∧
    ∀ item ∈ RobotWorld.whole.board.rows,
      (item.group = .received → item.status = "RECEIVED") ∧
      (item.status = "RECEIVED" → ∃ a ∈ RobotWorld.whole.attempts,
        a.call.itemId = item.itemId ∧ a.outcome = some .received) := by
  have hhalf : RobotEvent.Supervised .ascii .inTurn (.process 1) .half :=
    ⟨_, steps_run RobotWorld.supervised_playAutomated _ _⟩
  have hwhole : RobotEvent.Supervised .ascii .half (.process 1) .whole :=
    ⟨_, steps_run RobotWorld.supervised_playAutomated _ _⟩
  have htrace := Trace.append_iff.mpr ⟨_, Trace.single hhalf, Trace.single hwhole⟩
  exact ⟨by decide +kernel, by decide +kernel, board_truthful (by decide) htrace⟩

end ReceivingApp
