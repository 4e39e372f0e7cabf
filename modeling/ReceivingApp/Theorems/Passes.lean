import ReceivingApp.Adapters.RobotWorld
import ReceivingApp.Lib.Hoare
import ReceivingApp.RobotRunner

open Interaction Program Relational

namespace ReceivingApp

-- ### Surroundings that compute

theorem Board.outside_automate {board : Board} : board.Outside board.automate where
  kept item hi := by
    have hm := Table.mem_modify_of_mem (fun _ => true) BoardItem.routed BoardItem.key_routed hi
    exact ⟨_, hm, Option.some.inj (BoardItem.key_routed item)⟩
  ready item hi item' hi' he hg := by
    obtain ⟨item₀, hi₀, rfl⟩ := Table.mem_modify.mp hi'
    have hk : item₀.key = item.key := (BoardItem.key_routed item₀).symm.trans (congrArg some he)
    obtain rfl := Table.eq_of_key_eq hi₀ hi hk rfl
    rw [if_pos rfl] at hg
    unfold BoardItem.routed at hg
    split at hg
    case isTrue    => cases hg
    case isFalse h => exact ⟨hg, fun hs => h ⟨hg, hs⟩⟩

theorem RobotWorld.answers_play {executor : ReceiveCall → Except PyExc ReceiveOutcome}
    {broken : Mutation → RobotWorld → Bool} (β : Type) (op : RobotCall β) (w : RobotWorld) :
    Answers β op w (play executor broken β op w).1 (play executor broken β op w).2 := by
  cases op
  case pollReady       => exact ⟨rfl, .inl rfl⟩
  case close           => rfl
  case writeSyncStatus => exact .inl ⟨rfl, rfl⟩
  case utcNow          => exact ⟨⟨_, rfl⟩, rfl⟩
  case sleep           => exact ⟨_, Board.outside_automate, rfl⟩
  case mutate m =>
    simp only [play]
    split
    case isTrue  => exact .inr ⟨⟨_, rfl, by decide⟩, false, rfl⟩
    case isFalse => exact .inl ⟨rfl, rfl⟩
  case receiveItem call =>
    simp only [play]
    cases executor call
    case ok outcome => exact .inl ⟨outcome, rfl, rfl⟩
    case error e    => exact .inr ⟨e, rfl, rfl⟩

-- ### What a pass does to the board

-- The calls of a pass beside the poll and those to the executor. They take no item into the READY
-- group.
def RobotCall.IsMark : ∀ β, RobotCall β → Prop
  | _, .mutate m => ∀ item : BoardItem, (item.mutate m).group = .ready → item.group = .ready
  | _, .writeSyncStatus _ | _, .utcNow => True
  | _, _ => False

open RobotCall (IsMark)

-- They either mutate the board, whether they return or raise, or replace the status.
theorem RobotWorld.mark_cases {β : Type} {op : RobotCall β} {r : Except PyExc β}
    {w w' : RobotWorld} (hm : IsMark β op) (ha : Answers β op w r w') :
    (∃ m, (∀ item : BoardItem, (item.mutate m).group = .ready → item.group = .ready) ∧
      (w' = w.mutate m ∨ ∃ applied, w' = w.mutateFails m applied)) ∨
    ∃ status, w' = { w with syncStatus := status } := by
  cases op
  case mutate m           => exact .inl ⟨m, hm, ha.imp And.right And.right⟩
  case writeSyncStatus rc => exact .inr <| ha.elim (fun h => ⟨_, h.2⟩) (fun h => ⟨_, h.2⟩)
  case utcNow             => exact .inr ⟨_, ha.2⟩
  all_goals exact hm.elim

theorem uses_writeStatus {state : SyncState} {outcome : LastOutcome} {n : Nat} {reason : String} :
    Uses IsMark (writeStatus state outcome n reason) :=
  .bind (.perform trivial) fun _ => .perform trivial

theorem isMark_setStatus {itemId label : String} :
    IsMark Unit (.mutate (.setStatus itemId label)) :=
  fun _ h => h

theorem isMark_move {itemId : String} {group : BoardGroup} (h : group ≠ .ready) :
    IsMark Unit (.mutate (.move itemId group)) :=
  fun _ hg => absurd hg h

theorem uses_markReceived {itemId : String} : Uses IsMark (BoardApi.markReceived itemId) :=
  .bind (.perform isMark_setStatus) fun _ => .perform (isMark_move (by decide))

theorem uses_markNoMatch {itemId : String} : Uses IsMark (BoardApi.markNoMatch itemId) :=
  .perform (isMark_move (by decide))

theorem uses_escalate {c : Counters} {itemId : String} :
    Uses IsMark (escalate boardApi c itemId) := by
  have hgo (n : Nat) : Uses IsMark (do
      writeStatus .running .failure n ""
      return { c with failed := c.failed + 1, consecutiveFailures := n } : RobotM Counters) :=
    .bind uses_writeStatus fun _ => .pure _
  apply Uses.bind (.perform isMark_setStatus)
  intro _
  dsimp only
  split
  case isTrue  => exact .bind uses_writeStatus fun _ => .bind (.throw _) fun _ => hgo _
  case isFalse => exact hgo _

-- ### Rules

section

variable {I F P : RobotWorld → Prop} {w : RobotWorld}

-- `F` says nothing that the calls beside the poll and the executor could change.
def KeptByMarks (F : RobotWorld → Prop) : Prop :=
  ∀ β (op : RobotCall β) w r w', IsMark β op → RobotWorld.Answers β op w r w' → F w → F w'

theorem KeptByMarks.wp {α : Type} {p : RobotM α} (hF : KeptByMarks F) (hI : ∀ w, F w → I w)
    (hu : Uses IsMark p) (h : F w) :
    p.wp RobotWorld.Answers I (fun _ => F) (fun _ => F) w :=
  .frame (E := RobotWorld.Answers) (hF _ _ _ _ _) hI hu h

-- An item leaves `F` behind if it does so when it is skipped, when the executor brings it to no
-- receive, and when it is received and then marked.
theorem receiveNext_wp {c : Counters} {item : ReadyItem} (hF : KeptByMarks F)
    (hFI : ∀ w, F w → I w) (hI : I w) (hskip : ¬item.isValid → F w)
    (hmiss : ∀ outcome, item.isValid → outcome ≠ some .received → F (w.attempt item.call outcome))
    (hreceive : item.isValid → (BoardApi.markReceived item.call.itemId).wp RobotWorld.Answers I
      (fun _ => F) (fun _ => F) (w.receive item.call)) :
    (receiveNext boardApi c item).wp RobotWorld.Answers I (fun _ => F) (fun _ => F) w := by
  unfold receiveNext
  split
  case isTrue hv =>
    have hdone {c : Counters} {w : RobotWorld} (h : F w) :
        (writeStatus .running .success 0 "" >>= fun _ =>
          (.pure { c with consecutiveFailures := 0 } : RobotM Counters)).wp RobotWorld.Answers I
            (fun _ => F) (fun _ => F) w :=
      hF.wp hFI (uses_writeStatus.bind fun _ => .pure _) h
    have hmark {w : RobotWorld} (h : F w) :
        (routeOutcome boardApi c item.call.itemId .notFound).wp RobotWorld.Answers I
          (fun _ => F) (fun _ => F) w :=
      hF.wp hFI (uses_markNoMatch.bind fun _ => .pure _) h
    have hroute (outcome : ReceiveOutcome) :
        (routeOutcome boardApi c item.call.itemId outcome).wp RobotWorld.Answers I
          (fun _ => F) (fun _ => F) (w.answer item.call outcome) := by
      cases outcome
      case received =>
        exact .bind <| (hreceive hv).mono (fun _ w hI hF => ⟨hI, hF⟩) (fun _ _ _ h => h)
      case notFound | finalizeError => exact hmark (hmiss _ hv (by decide))
    have hcatch (e : PyExc) {w : RobotWorld} (h : F w) :
        (if e.cls = .executorError then escalate boardApi c item.call.itemId
          else .throw e).wp RobotWorld.Answers I (fun _ => F) (fun _ => F) w := by
      split
      case isTrue  => exact hF.wp hFI uses_escalate h
      case isFalse => exact ⟨hFI w h, h⟩
    refine .tryCatch <| .bind <| .perform hI ?ok ?err
    case ok =>
      rintro outcome w' (⟨_, ⟨⟩, rfl⟩ | ⟨_, ⟨⟩, _⟩)
      have hb := hroute outcome
      refine ⟨hb.now, .bind <| hb.mono (fun _ _ _ h => ?_) (fun e _ _ h => hcatch e h)⟩
      exact (hdone h).mono (fun _ _ _ h => h) (fun e _ _ h => hcatch e h)
    case err =>
      rintro e w' (⟨_, ⟨⟩, _⟩ | ⟨_, ⟨⟩, rfl⟩)
      have hF' := hmiss none hv (by decide)
      exact ⟨hFI _ hF', hcatch e hF'⟩
  case isFalse hv =>
    have hu : Uses IsMark (do
        if orEmpty item.itemId ≠ "" then boardApi.markNoMatch item.call.itemId
        return { c with skipped := c.skipped + 1 } : RobotM Counters) := by
      split
      case isTrue  => exact uses_markNoMatch.bind fun _ => .pure _
      case isFalse => exact .bind (.pure _) fun _ => .pure _
    exact hF.wp hFI hu (hskip hv)

-- A pass that leaves `J` behind for the items yet to come, item by item, leaves `P` behind.
theorem receivePending_wp {py : PyStd} {J : List ReadyItem → RobotWorld → Prop}
    (hJ : ∀ items, KeptByMarks (J items)) (hP : ∀ items w, J items w → P w) (hPI : ∀ w, P w → I w)
    (hnext : ∀ item items c w, J (item :: items) w →
      (receiveNext boardApi c item).wp RobotWorld.Answers I (fun _ => J items) (fun _ => J items) w)
    (h : J (sortById py w.board.readyItems) w) :
    (receivePending py boardApi).wp RobotWorld.Answers I (fun _ => P) (fun _ => P) w := by
  have hw := hP _ w h
  have hJI (items : List ReadyItem) (w : RobotWorld) (h : J items w) : I w := hPI w (hP items w h)
  refine .bind <| .perform (hPI w hw) ?ok ?err
  case ok =>
    rintro items w' ⟨rfl, hr | ⟨_, ⟨⟩, _⟩⟩
    cases hr
    have hstart := (hJ _).wp (p := writeStatus .running .none 0 "") (hJI _) uses_writeStatus h
    refine ⟨hPI _ hw, .bind <| hstart.mono (fun _ w _ h => ?_) (fun _ w _ h => hP _ w h)⟩
    have hturn (item : ReadyItem) (items : List ReadyItem) (c : Counters) (w : RobotWorld)
        (h : J (item :: items) w) : (receiveNext boardApi c item).wp RobotWorld.Answers I
          (fun _ => J items) (fun _ => P) w :=
      (hnext item items c w h).mono (fun _ _ _ h => h) (fun _ w _ h => hP _ w h)
    have hloop := wp.foldlM (J := fun items _ => J items) hturn (a := ⟨⟨0, 0, 0, 0⟩, 0⟩) h
      (fun _ => hJI [])
    refine .bind <| hloop.mono (fun c w _ h => ?_) (fun _ _ _ h => h)
    exact ((hJ []).wp (hJI []) (uses_writeStatus.bind fun _ => .pure _) h).mono
      (fun _ w _ h => hP _ w h) (fun _ w _ h => hP _ w h)
  case err =>
    rintro e w' ⟨rfl, _⟩
    exact ⟨hPI _ hw, hw⟩

section Loop

variable {σ : Type} {E : Env RobotCall PyExc σ} {I P : σ → Prop} {w : σ}

-- What every pass, every close and every pause keeps, the poll loop keeps.
theorem pollLoop_keeps {py : PyStd} (hPI : ∀ w, P w → I w)
    (hpass : ∀ w, P w → (receivePending py boardApi).wp E I (fun _ => P) (fun _ => P) w)
    (hclose : ∀ w r w', E _ .close w r w' → P w → P w')
    (hsleep : ∀ w r w', E _ .sleep w r w' → P w → P w') (n : Nat) (h : P w) :
    (pollLoop py boardApi n).wp E I (fun _ => P) (fun _ => P) w := by
  induction n generalizing w
  case zero => exact ⟨hPI w h, h⟩
  case succ n ih =>
    have hstop {w : σ} {c : Prop} [Decidable c] (e : PyExc) (h : P w) :
        (if c then .pure false else .throw e : RobotM Bool).wp E I (fun _ => P) (fun _ => P) w := by
      split
      case isTrue | isFalse => exact ⟨hPI w h, h⟩
    have hturn : (runPass py boardApi).wp E I (fun _ => P) (fun _ => P) w := by
      have hdone {w : σ} (hP : P w) :
          (perform .close : RobotM Unit).wp E I (fun _ => P) (fun _ => P) w := by
        refine .perform (hPI w hP) (fun _ w' ha => ?_) (fun e w' ha => ?_)
        · exact ⟨hPI _ (hclose _ _ _ ha hP), hclose _ _ _ ha hP⟩
        · exact ⟨hPI _ (hclose _ _ _ ha hP), hclose _ _ _ ha hP⟩
      have htry : (tryCatch (receivePending py boardApi >>= fun _ => .pure true) fun e =>
          if e.cls = .syncKillError ∨ e.cls = .keyboardInterrupt then .pure false
          else .throw e).wp E I (fun _ => P) (fun _ => P) w := by
        refine .tryCatch <| .bind <| (hpass w h).mono ?_ ?_
        · exact fun _ w hI hP => ⟨hI, hP⟩
        · exact fun e w _ hP => hstop e hP
      exact .withFinally <| htry.mono (fun _ _ _ hP => hdone hP) (fun _ _ _ hP => hdone hP)
    have hpause {w : σ} (h : P w) :
        (tryCatch (perform .sleep >>= fun _ => .pure true)
          (fun e => if e.cls = .keyboardInterrupt then .pure false else .throw e) :
            RobotM Bool).wp E I (fun _ => P) (fun _ => P) w := by
      refine .tryCatch <| .bind <| .perform (hPI w h) (fun _ w' ha => ?_) (fun e w' ha => ?_)
      · have hP := hsleep _ _ _ ha h
        exact ⟨hPI _ hP, hPI _ hP, hP⟩
      · have hP := hsleep _ _ _ ha h
        exact ⟨hPI _ hP, hstop e hP⟩
    refine .bind <| hturn.mono (fun goesOn w hI hP => ?_) (fun _ _ _ h => h)
    cases goesOn
    case false => exact ⟨hI, hP⟩
    case true =>
      refine .bind <| (hpause hP).mono (fun goesOn w hI hP => ?_) (fun _ _ _ h => h)
      cases goesOn
      case false => exact ⟨hI, hP⟩
      case true  => exact ih hP

end Loop

theorem pollLoop_wp {py : PyStd} (hPI : ∀ w, P w → I w)
    (hpass : ∀ w, P w →
      (receivePending py boardApi).wp RobotWorld.Answers I (fun _ => P) (fun _ => P) w)
    (hsleep : ∀ w board, w.board.Outside board → P w → P { w with board }) (n : Nat) (h : P w) :
    (pollLoop py boardApi n).wp RobotWorld.Answers I (fun _ => P) (fun _ => P) w :=
  pollLoop_keeps hPI hpass (by rintro _ _ _ rfl h; exact h)
    (by rintro w _ _ ⟨board, hb, rfl⟩ h; exact hsleep w board hb h) n h

end
end ReceivingApp
