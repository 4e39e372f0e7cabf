import ReceivingApp.Lib.Trace
import ReceivingApp.Theorems.Passes

open Interaction Program Relational

namespace ReceivingApp

-- ### The board

namespace Board

variable {board board' : Board} {m : Mutation} {id : String}

def Has (board : Board) (id : String) : Prop :=
  ∃ item ∈ board.rows, item.itemId = id

theorem mem_mutate {item : BoardItem} (h : item ∈ board.rows) :
    ∃ item' ∈ (board.mutate m).rows, item'.itemId = item.itemId ∧
      (item' = item ∨ item' = item.mutate m) := by
  refine ⟨_, Table.mem_modify_of_mem _ _ _ h, ?_⟩
  split
  case isTrue  => exact ⟨item.itemId_mutate m, .inr rfl⟩
  case isFalse => exact ⟨rfl, .inl rfl⟩

theorem Has.mutate (h : board.Has id) : (board.mutate m).Has id := by
  obtain ⟨item, hm, rfl⟩ := h
  obtain ⟨item', hm', he, _⟩ := mem_mutate hm
  exact ⟨item', hm', he⟩

theorem IsOut.mutate (h : board.IsOut id)
    (hm : ∀ item : BoardItem, (item.mutate m).group = .ready → item.group = .ready) :
    (board.mutate m).IsOut id := by
  obtain ⟨item, hi, rfl, hg⟩ := h
  obtain ⟨item', hi', he, rfl | rfl⟩ := mem_mutate hi
  · exact ⟨item', hi', he, hg⟩
  · exact ⟨_, hi', he, fun hr => hg (hm item hr)⟩

theorem IsOut.outside (h : board.IsOut id) (ho : board.Outside board') : board'.IsOut id := by
  obtain ⟨item, hi, rfl, hg⟩ := h
  have ⟨item', hi', he⟩ := ho.kept item hi
  exact ⟨item', hi', he, fun hr => hg (ho.ready item hi item' hi' he hr).1⟩

-- A move takes the item out of READY, since no other item has its id.
theorem Has.isOut_move {group : BoardGroup} (h : board.Has id) (hg : group ≠ .ready) :
    (board.mutate (.move id group)).IsOut id := by
  obtain ⟨item, hi, rfl⟩ := h
  have hm := Table.mem_modify_of_mem (fun i => i.itemId = item.itemId)
    (·.mutate (.move item.itemId group)) (BoardItem.key_mutate _) hi
  rw [if_pos (by simp)] at hm
  exact ⟨_, hm, rfl, hg⟩

-- ### The items of a pass

def ids (items : List ReadyItem) : List String :=
  items.map (·.call.itemId)

theorem mem_ids_readyItems (h : id ∈ ids board.readyItems) :
    ∃ item ∈ board.rows, item.itemId = id ∧ item.group = .ready := by
  simp only [ids, readyItems, List.map_map, List.mem_map, List.mem_filter] at h
  obtain ⟨item, ⟨hi, hg⟩, rfl⟩ := h
  exact ⟨item, hi, rfl, by simpa using hg⟩

theorem IsOut.not_mem (h : board.IsOut id) : id ∉ ids board.readyItems := by
  intro hm
  have ⟨item, hi, he, hg⟩ := h
  have ⟨item', hi', he', hg'⟩ := mem_ids_readyItems hm
  have heq : item = item' :=
    Table.eq_of_key_eq hi hi' (congrArg some he) (congrArg some he')
  exact hg (heq ▸ hg')

theorem nodup_ids_readyItems : (ids board.readyItems).Nodup := by
  have hn : (board.rows.map BoardItem.itemId).Nodup := by
    have h : (board.rows.filterMap (some ∘ BoardItem.itemId)).Nodup := board.nodup
    rwa [List.filterMap_eq_map] at h
  have hs : (ids board.readyItems).Sublist (board.rows.map BoardItem.itemId) := by
    simp only [ids, readyItems, List.map_map]
    exact List.filter_sublist.map _
  exact hn.sublist hs

end Board

theorem ids_sortById {py : PyStd} {items : List ReadyItem} :
    (Board.ids (sortById py items)).Perm (Board.ids items) :=
  (List.perm_insertionSort _ items).map _

-- ### How often an item is received

namespace RobotWorld

variable {w : RobotWorld} {itemId : String}

-- How often the executor has returned "received" for an item.
def receipts (itemId : String) (w : RobotWorld) : Nat :=
  w.attempts.countP (fun a => a.call.itemId = itemId ∧ a.outcome = some .received)

-- How often a mutation of `mark_received` has raised for an item.
def failures (itemId : String) (w : RobotWorld) : Nat :=
  w.unmarked.count itemId

theorem receipts_attempt {call : ReceiveCall} {outcome : Option ReceiveOutcome}
    (h : outcome ≠ some .received) :
    (w.attempt call outcome).receipts itemId = w.receipts itemId := by
  simp [receipts, attempt, List.countP_append, h]

theorem receipts_receive {call : ReceiveCall} :
    (w.receive call).receipts itemId =
      w.receipts itemId + if call.itemId = itemId then 1 else 0 := by
  simp [receipts, receive, List.countP_append, List.countP_cons]

theorem failures_mutateFails {m : Mutation} {applied : Bool} :
    (w.mutateFails m applied).failures itemId =
      w.failures itemId + if m.marksReceived ∧ m.itemId = itemId then 1 else 0 := by
  simp only [failures, mutateFails]
  split <;> simp_all [List.count_append, List.count_singleton]

-- Where a pass stands before the given items: it may still receive the item once, or the item is
-- out of READY and not among them.
structure Pending (itemId : String) (items : List ReadyItem) (w : RobotWorld) : Prop where
  nodup   : (Board.ids items).Nodup
  has     : itemId ∈ Board.ids items → w.board.Has itemId
  settled : w.receipts itemId ≤ w.failures itemId ∨
    (w.receipts itemId ≤ w.failures itemId + 1 ∧ w.board.IsOut itemId ∧ itemId ∉ Board.ids items)

-- The item has been received as often as its marks have failed, or once more and is then out of
-- READY.
def Settled (itemId : String) (w : RobotWorld) : Prop :=
  w.receipts itemId ≤ w.failures itemId ∨
  (w.receipts itemId ≤ w.failures itemId + 1 ∧ w.board.IsOut itemId)

def Bounded (itemId : String) (w : RobotWorld) : Prop :=
  w.receipts itemId ≤ w.failures itemId + 1

theorem Settled.bounded (h : w.Settled itemId) : w.Bounded itemId :=
  h.elim Nat.le_succ_of_le And.left

namespace Pending

variable {items : List ReadyItem} {item : ReadyItem} {w' : RobotWorld}

theorem ofSettled {py : PyStd} (h : w.Settled itemId) :
    Pending itemId (sortById py w.board.readyItems) w where
  nodup := ids_sortById.nodup_iff.mpr Board.nodup_ids_readyItems
  has hm := by
    have ⟨item, hi, he, _⟩ := Board.mem_ids_readyItems (ids_sortById.mem_iff.mp hm)
    exact ⟨item, hi, he⟩
  settled := h.imp_right fun h => ⟨h.1, h.2, fun hm => h.2.not_mem (ids_sortById.mem_iff.mp hm)⟩

theorem settled' (h : Pending itemId items w) : w.Settled itemId :=
  h.settled.imp_right fun h => ⟨h.1, h.2.1⟩

theorem tail (h : Pending itemId (item :: items) w) : Pending itemId items w where
  nodup   := (List.nodup_cons.mp h.nodup).2
  has hm  := h.has (List.mem_cons_of_mem _ hm)
  settled := h.settled.imp_right fun h => ⟨h.1, h.2.1, fun hm => h.2.2 (List.mem_cons_of_mem _ hm)⟩

-- Neither of the two counts goes down for the other one's sake, and the item stays where it is.
theorem mono (h : Pending itemId items w) (hr : w'.receipts itemId = w.receipts itemId)
    (hf : w.failures itemId ≤ w'.failures itemId) (hb : w.board.Has itemId → w'.board.Has itemId)
    (ho : w.board.IsOut itemId → w'.board.IsOut itemId) : Pending itemId items w' where
  nodup   := h.nodup
  has hm  := hb (h.has hm)
  settled := by
    rcases h.settled with hs | ⟨hs, hout, hm⟩
    case inl => exact .inl (by omega)
    case inr => exact .inr ⟨by omega, ho hout, hm⟩

theorem kept : KeptByMarks (Pending itemId items) := by
  intro β op w r w' hm ha h
  rcases mark_cases hm ha with ⟨m, hg, rfl | ⟨applied, rfl⟩⟩ | ⟨status, rfl⟩
  case inl.inl => exact h.mono rfl le_rfl .mutate (.mutate · hg)
  case inl.inr =>
    have hf : w.failures itemId ≤ (w.mutateFails m applied).failures itemId := by
      rw [failures_mutateFails]
      omega
    cases applied
    case false => exact h.mono rfl hf id id
    case true  => exact h.mono rfl hf .mutate (.mutate · hg)
  case inr => exact h.mono rfl le_rfl id id

end Pending

-- After "received" either a mark fails or the item is taken out of READY.
theorem markReceived_wp {items : List ReadyItem} (h : w.Bounded itemId)
    (hn : (Board.ids items).Nodup) (hb : w.board.Has itemId) (hm : itemId ∉ Board.ids items) :
    (BoardApi.markReceived itemId).wp Answers (Bounded itemId)
      (fun _ => Pending itemId items) (fun _ => Pending itemId items) w := by
  have hfail (m : Mutation) (applied : Bool) {w : RobotWorld} (h : w.Bounded itemId)
      (hmr : m.marksReceived) (hmi : m.itemId = itemId) :
      Pending itemId items (w.mutateFails m applied) := by
    refine ⟨hn, fun h => absurd h hm, .inl ?_⟩
    rw [failures_mutateFails, if_pos ⟨hmr, hmi⟩]
    exact h
  refine .bind <| .perform h ?set_ok ?set_err
  case set_err =>
    rintro e _ (⟨⟨⟩, _⟩ | ⟨_, applied, rfl⟩)
    have hp := hfail (.setStatus itemId "RECEIVED") applied h rfl rfl
    exact ⟨hp.settled'.bounded, hp⟩
  case set_ok =>
    rintro _ _ (⟨_, rfl⟩ | ⟨⟨_, ⟨⟩, _⟩, _⟩)
    have h₁ : (w.mutate (.setStatus itemId "RECEIVED")).Bounded itemId := h
    refine ⟨h₁, .perform h₁ ?move_ok ?move_err⟩
    case move_ok =>
      rintro _ _ (⟨_, rfl⟩ | ⟨⟨_, ⟨⟩, _⟩, _⟩)
      have hp : Pending itemId items
          ((w.mutate (.setStatus itemId "RECEIVED")).mutate (.move itemId .received)) :=
        ⟨hn, fun h => absurd h hm, .inr ⟨h₁, hb.mutate.isOut_move (by decide), hm⟩⟩
      exact ⟨h₁, hp⟩
    case move_err =>
      rintro e _ (⟨⟨⟩, _⟩ | ⟨_, applied, rfl⟩)
      have hp := hfail (.move itemId .received) applied h₁ rfl rfl
      exact ⟨hp.settled'.bounded, hp⟩

theorem Pending.receiveNext {items : List ReadyItem} {item : ReadyItem} {c : Counters}
    (h : Pending itemId (item :: items) w) :
    (receiveNext boardApi c item).wp Answers (Bounded itemId)
      (fun _ => Pending itemId items) (fun _ => Pending itemId items) w := by
  have hI (w : RobotWorld) (h : Pending itemId items w) : w.Bounded itemId := h.settled'.bounded
  refine receiveNext_wp kept hI h.settled'.bounded (fun _ => h.tail) ?miss ?receive
  case miss =>
    intro outcome _ ho
    exact h.tail.mono (receipts_attempt ho) le_rfl id id
  case receive =>
    intro _
    have ⟨hm, hn⟩ := List.nodup_cons.mp h.nodup
    by_cases he : item.call.itemId = itemId
    case pos =>
      subst he
      have hs : w.receipts item.call.itemId ≤ w.failures item.call.itemId :=
        h.settled.resolve_right fun h => h.2.2 (List.mem_cons_self ..)
      have hb : (w.receive item.call).Bounded item.call.itemId := by
        rw [Bounded, receipts_receive, if_pos rfl]
        exact Nat.succ_le_succ hs
      exact markReceived_wp hb hn (h.has (List.mem_cons_self ..)) hm
    case neg =>
      have hr : (w.receive item.call).receipts itemId = w.receipts itemId := by
        rw [receipts_receive, if_neg he, Nat.add_zero]
      exact kept.wp hI uses_markReceived (h.tail.mono hr le_rfl id id)

theorem Settled.pollLoop {py : PyStd} {n : Nat} (h : w.Settled itemId) :
    (pollLoop py boardApi n).wp Answers (Bounded itemId) (fun _ => Settled itemId)
      (fun _ => Settled itemId) w := by
  refine pollLoop_wp (fun _ => Settled.bounded) (fun w h => ?pass) ?pause n h
  case pass =>
    exact receivePending_wp (J := Pending itemId) (fun _ => Pending.kept)
      (fun _ _ => Pending.settled') (fun _ => Settled.bounded)
      (fun _ _ _ _ => Pending.receiveNext) (.ofSettled h)
  case pause => exact fun w board ho h => h.imp_right fun h => ⟨h.1, h.2.outside ho⟩

end RobotWorld

-- ### Runs of the robot

-- The robot is started again after every exception. In between the board may change as it does in a
-- pause.
inductive RobotEvent
  | process (turns : Nat)
  | outside

namespace RobotEvent

def Step (py : PyStd) (w : RobotWorld) (e : RobotEvent) (w' : RobotWorld) : Prop :=
  match e with
  | process n => ∃ r, Steps RobotWorld.Answers w (pollLoop py boardApi n) w' (.ofExcept r)
  | outside   => ∃ board, w.board.Outside board ∧ w' = { w with board }

theorem Step.settled {py : PyStd} {e : RobotEvent} {w w' : RobotWorld} {itemId : String}
    (hs : Step py w e w') (h : w.Settled itemId) : w'.Settled itemId := by
  cases e
  case process n =>
    have ⟨r, hs⟩ := hs
    cases r
    case ok    => exact h.pollLoop.returns hs
    case error => exact h.pollLoop.raises hs
  case outside =>
    obtain ⟨board, ho, rfl⟩ := hs
    exact h.imp_right fun h => ⟨h.1, h.2.outside ho⟩

end RobotEvent

-- In every run of the robot, the executor returns "received" for an item at most once more often
-- than its marks have failed.
theorem receipts_le_failures {py : PyStd} {board : Board}
    {openIds : String → String → Finset Int} {es : List RobotEvent} {w w' : RobotWorld} {n : Nat}
    {q : RobotM Unit} (itemId : String)
    (h : Trace (RobotEvent.Step py) (.init board openIds) es w)
    (hs : Steps RobotWorld.Answers w (pollLoop py boardApi n) w' q) :
    w'.receipts itemId ≤ w'.failures itemId + 1 := by
  have hw : w.Settled itemId := h.invariant RobotEvent.Step.settled (.inl (Nat.zero_le _))
  exact hw.pollLoop.invariant hs

-- ### A second receive

-- The board has one item in READY, for a unit of a model of which the portal has two open.
def RobotWorld.oneReady : RobotWorld :=
  .init ⟨[⟨"I1", "P", some "101", some "A", some "S1", "READY", .ready⟩], by simp [BoardItem.key]⟩
    (fun po model => if po = "P" ∧ model = "A" then {101, 102} else ∅)

-- The wizard always completes. The first mark of all fails, and no other one does.
def RobotWorld.failOnce : Handler RobotCall PyExc RobotWorld :=
  play (fun _ => .ok .received) (fun m w => m.marksReceived ∧ w.unmarked = [])

-- What the first process of the robot leaves behind, and what the second does.
def RobotWorld.crashed : RobotWorld :=
  ((pollLoop .ascii boardApi 1).run failOnce oneReady).2

def RobotWorld.receivedTwice : RobotWorld :=
  ((pollLoop .ascii boardApi 1).run failOnce crashed).2

theorem trace_crashed :
    Trace (RobotEvent.Step .ascii) RobotWorld.oneReady [.process 1] .crashed :=
  .single ⟨_, steps_run RobotWorld.answers_play _ _⟩

theorem receipts_le_failures_sample :
    RobotWorld.receivedTwice.receipts "I1" ≤ RobotWorld.receivedTwice.failures "I1" + 1 :=
  receipts_le_failures "I1" trace_crashed (steps_run RobotWorld.answers_play _ _)

theorem not_receipts_le_one :
    ¬∀ (py : PyStd) (board : Board) (openIds : String → String → Finset Int)
      (es : List RobotEvent) (w : RobotWorld) (itemId : String),
      Trace (RobotEvent.Step py) (.init board openIds) es w → w.receipts itemId ≤ 1 := by
  intro h
  have htrace : Trace (RobotEvent.Step .ascii) RobotWorld.oneReady ([.process 1] ++ [.process 1])
      .receivedTwice :=
    Trace.append_iff.mpr
      ⟨_, trace_crashed, .single ⟨_, steps_run RobotWorld.answers_play _ _⟩⟩
  have h₂ : RobotWorld.receivedTwice.receipts "I1" = 2 := by decide +kernel
  have h₁ := h _ _ _ _ _ "I1" htrace
  omega

end ReceivingApp
