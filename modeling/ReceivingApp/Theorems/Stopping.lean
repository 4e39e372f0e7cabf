import ReceivingApp.Theorems.Routing

open Interaction Program

namespace ReceivingApp

variable {py : PyStd} {items : List ReadyItem} {l : List Entry}

-- The store answers all calls. The marks and the executor may raise anything.
def RobotCall.StoreAnswers (items : List ReadyItem) : ∀ β, RobotCall β → Except PyExc β → Prop
  | _, .receiveItem _, _ | _, .mutate _, _ => True
  | _, .pollReady, r => r = .ok items
  | _, _, r          => ∃ b, r = .ok b

def storeEnv (items : List ReadyItem) : Program.Env RobotCall PyExc (List Entry) :=
  Journaled (RobotCall.StoreAnswers items) Entry.note

-- ### Exceptions that escape

-- Whether the pass is in its `try` block after a call. An outcome of the executor is marked there.
def Entry.staysInTry (inTry : Bool) : Entry → Bool
  | executed _ (.ok _) => true
  | mutated _ (.ok _)  => inTry
  | _                  => false

def inTry (l : List Entry) : Bool :=
  l.foldl Entry.staysInTry false

-- An exception that `receive_pending` does not handle. It handles an ExecutorError, if that is
-- raised by the executor or by a mark in the `try` block.
def Entry.Escapes (inTry : Bool) : Entry → Prop
  | mutated _ (.error e)  => ¬(inTry ∧ e.cls = .executorError)
  | executed _ (.error e) => e.cls ≠ .executorError
  | _                     => False

def NoneEscapes (l : List Entry) : Prop :=
  ∀ l₁ x l₂, l = l₁ ++ x :: l₂ → ¬x.Escapes (inTry l₁)

section Entries

variable {x : Entry}

theorem inTry_concat : inTry (l ++ [x]) = x.staysInTry (inTry l) := by
  simp [inTry]

theorem noneEscapes_concat_iff :
    NoneEscapes (l ++ [x]) ↔ NoneEscapes l ∧ ¬x.Escapes (inTry l) :=
  forall_entry_concat_iff

end Entries

-- ### Journals of a pass

-- The last status that was written.
def lastStatus (l : List Entry) : Option Status :=
  (l.filterMap Entry.status?).getLast?

def LeavesStopped (l : List Entry) : Prop :=
  ∃ s, lastStatus l = some s ∧ s.state = .stopped

-- The last status is of the given state, and so far nothing has escaped.
structure IsIn (state : SyncState) (inTry : Bool) (l : List Entry) : Prop where
  last  : ∃ s, lastStatus l = some s ∧ s.state = state
  inTry : ReceivingApp.inTry l = inTry
  clean : NoneEscapes l

structure IsBroken (l : List Entry) : Prop where
  last    : ∃ s, lastStatus l = some s ∧ s.state = .running
  escaped : ¬NoneEscapes l

section Entries

variable {x : Entry}

theorem lastStatus_append_of_none (h : x.status? = none) : lastStatus (l ++ [x]) = lastStatus l := by
  simp [lastStatus, List.filterMap_append, h]

theorem lastStatus_append_of_some {s : Status} (h : x.status? = some s) :
    lastStatus (l ++ [x]) = some s := by
  simp [lastStatus, List.filterMap_append, h]

theorem IsIn.append {state : SyncState} {b b' : Bool} (h : IsIn state b l) (hs : x.status? = none)
    (ht : x.staysInTry b = b') (hx : ¬x.Escapes b) : IsIn state b' (l ++ [x]) where
  last  := by
    rw [lastStatus_append_of_none hs]
    exact h.last
  inTry := ht ▸ h.inTry ▸ inTry_concat
  clean := noneEscapes_concat_iff.mpr ⟨h.clean, h.inTry ▸ hx⟩

theorem IsIn.breaks {b : Bool} (h : IsIn .running b l) (hs : x.status? = none) (hx : x.Escapes b) :
    IsBroken (l ++ [x]) where
  last    := by
    rw [lastStatus_append_of_none hs]
    exact h.last
  escaped := fun hn => (noneEscapes_concat_iff.mp hn).2 (h.inTry ▸ hx)

end Entries

-- ### What a pass leaves

section Calls

variable {Q : Unit → List Entry → Prop} {X : PyExc → List Entry → Prop}

theorem setStatus_wp {state : SyncState} {outcome : LastOutcome} {n : Nat} {reason : String}
    (hl : NoneEscapes l) (h : ∀ l', IsIn state false l' → Q () l') :
    (writeStatus state outcome n reason).wp (storeEnv items) (fun _ => True) Q X l := by
  refine journaled_writeStatus_wp nofun nofun <| h _ ?_
  exact ⟨⟨_, lastStatus_append_of_some rfl, rfl⟩, inTry_concat,
    noneEscapes_concat_iff.mpr ⟨hl, fun h => h⟩⟩

-- A mark outside of the `try` block.
theorem mark_wp {m : Mutation} (hl : IsIn .running false l)
    (h : ∀ l', IsIn .running false l' → Q () l') (hx : ∀ e l', IsBroken l' → X e l') :
    (perform (.mutate m) : RobotM Unit).wp (storeEnv items) (fun _ => True) Q X l := by
  refine .performNoted (fun _ _ => ?_) (fun e _ => ?_)
  · exact h _ (hl.append rfl rfl (fun h => h))
  · exact hx e _ (hl.breaks rfl (fun h => nomatch h.1))

-- What is left where the `try` block raises. Its handler takes an ExecutorError.
def Raised (e : PyExc) (l : List Entry) : Prop :=
  if e.cls = .executorError then IsIn .running false l else IsBroken l

theorem tryMark_wp {m : Mutation} (hl : IsIn .running true l)
    (h : ∀ l', IsIn .running true l' → Q () l') (hx : ∀ e l', Raised e l' → X e l') :
    (perform (.mutate m) : RobotM Unit).wp (storeEnv items) (fun _ => True) Q X l := by
  refine .performNoted (fun _ _ => ?_) (fun e _ => ?_)
  · exact h _ (hl.append rfl rfl (fun h => h))
  · refine hx e _ ?_
    unfold Raised
    split
    case isTrue he  => exact hl.append rfl rfl (fun h => h ⟨rfl, he⟩)
    case isFalse he => exact hl.breaks rfl (fun h => he h.2)

end Calls

-- What is left where an item raises: all is stopped, or an exception has escaped.
def Halts (_ : PyExc) (l : List Entry) : Prop :=
  IsIn .stopped false l ∨ IsBroken l

theorem routeOutcome_halts {c : Counters} {itemId : String} {outcome : ReceiveOutcome}
    (hl : IsIn .running true l) :
    (routeOutcome boardApi c itemId outcome).wp (storeEnv items) (fun _ => True)
      (fun _ => IsIn .running true) Raised l := by
  cases outcome
  case received =>
    refine .bind <| .bind <| tryMark_wp hl (fun _ hl => ?_) (fun _ _ h => h)
    exact tryMark_wp hl (fun _ hl => ⟨trivial, hl⟩) (fun _ _ h => h)
  case notFound | finalizeError =>
    exact .bind <| tryMark_wp hl (fun _ hl => ⟨trivial, hl⟩) (fun _ _ h => h)

theorem escalate_halts {c : Counters} {itemId : String} (hl : IsIn .running false l) :
    (escalate boardApi c itemId).wp (storeEnv items) (fun _ => True)
      (fun _ => IsIn .running false) Halts l := by
  refine .bind <| mark_wp hl (fun l hl => ?_) (fun _ _ h => .inr h)
  dsimp only
  split
  case isTrue  => exact .bind <| setStatus_wp hl.clean fun l hl => ⟨trivial, .inl hl⟩
  case isFalse => exact .bind <| setStatus_wp hl.clean fun l hl => ⟨trivial, hl⟩

-- The handler of the `try` block.
theorem handler_halts {c : Counters} {itemId : String} {e : PyExc} (h : Raised e l) :
    (if e.cls = .executorError then escalate boardApi c itemId else .throw e).wp (storeEnv items)
      (fun _ => True) (fun _ => IsIn .running false) Halts l := by
  unfold Raised at h
  by_cases he : e.cls = .executorError
  case pos =>
    rw [if_pos he] at h ⊢
    exact escalate_halts h
  case neg =>
    rw [if_neg he] at h ⊢
    exact ⟨trivial, .inr h⟩

theorem receiveNext_halts {c : Counters} {item : ReadyItem} (hl : IsIn .running false l) :
    (receiveNext boardApi c item).wp (storeEnv items) (fun _ => True)
      (fun _ => IsIn .running false) Halts l := by
  unfold receiveNext
  split
  case isTrue =>
    refine .tryCatch <| .bind <| .performNoted ?ok ?err
    case ok =>
      intro outcome _
      have hl : IsIn .running true (l ++ Entry.note _ (.receiveItem item.call) (.ok outcome)) :=
        hl.append rfl rfl (fun h => h)
      refine .bind <| (routeOutcome_halts hl).mono ?_ ?_
      · exact fun _ _ _ hl => .bind <| setStatus_wp hl.clean fun _ hl => ⟨trivial, hl⟩
      · exact fun _ _ _ h => handler_halts h
    case err =>
      intro e _
      refine handler_halts ?_
      unfold Raised
      split
      case isTrue he  => exact hl.append rfl rfl (fun h => h he)
      case isFalse he => exact hl.breaks rfl he
  case isFalse =>
    split
    case isTrue  => exact .bind <| mark_wp hl (fun _ hl => ⟨trivial, hl⟩) (fun _ _ h => .inr h)
    case isFalse => exact ⟨trivial, hl⟩

theorem receivePending_halts :
    (receivePending py boardApi).wp (storeEnv items) (fun _ => True)
      (fun _ => IsIn .stopped false) Halts [] := by
  refine .bind <| .perform trivial ?ok ?err
  case err => rintro e _ ⟨⟨⟩, _⟩
  case ok =>
    rintro _ _ ⟨⟨⟩, rfl⟩
    have hnil : NoneEscapes [] := by simp [NoneEscapes]
    have hstart := noneEscapes_concat_iff (x := .polled (.ok items)).mpr ⟨hnil, fun h => h⟩
    refine ⟨trivial, .bind <| setStatus_wp hstart fun l hl => .bind ?_⟩
    have hloop := wp.foldlM (E := storeEnv items) (I := fun _ => True) (f := receiveNext boardApi)
      (J := fun _ _ => IsIn .running false) (X := Halts) (l := sortById py items)
      (a := ⟨⟨0, 0, 0, 0⟩, 0⟩) (fun _ _ _ _ => receiveNext_halts) hl (fun _ _ _ => trivial)
    refine hloop.mono (fun c l _ hl => ?_) (fun _ _ _ h => h)
    exact .bind <| setStatus_wp hl.clean fun _ hl => ⟨trivial, hl⟩

-- A pass leaves its status stopped exactly if nothing escapes from it.
theorem leavesStopped_iff {q : RobotM ReceiveResult}
    (h : Steps (storeEnv items) [] (receivePending py boardApi) l q) (hq : q.Ended) :
    LeavesStopped l ↔ NoneEscapes l := by
  have hstopped (h : IsIn .stopped false l) : LeavesStopped l ↔ NoneEscapes l :=
    iff_of_true h.last h.clean
  rcases receivePending_halts.ended h hq with ⟨_, _, hl⟩ | ⟨_, _, hl | ⟨⟨s, hs, hr⟩, hn⟩⟩
  · exact hstopped hl
  · exact hstopped hl
  · refine iff_of_false (fun ⟨s', hs', hr'⟩ => ?_) hn
    cases hs.symm.trans hs'
    cases hr.symm.trans hr'

theorem storeSteps_playPass {items : List ReadyItem} {executor : ReceiveCall → Answer}
    {board : Mutation → Except PyExc Unit} :
    Steps (storeEnv items) [] (receivePending .ascii boardApi) (playPass items executor board).2
      (ofExcept (playPass items executor board).1) := by
  apply steps_journaled
  intro β op
  cases op
  case mutate | receiveItem => trivial
  case pollReady            => rfl
  all_goals exact ⟨_, rfl⟩

-- The executor fails twice, and all is stopped.
theorem leavesStopped_sample :
    let pass := playPass ReadyItem.samples (fun _ => .error ExecutorError) (fun _ => .ok ())
    LeavesStopped pass.2 ↔ NoneEscapes pass.2 :=
  leavesStopped_iff storeSteps_playPass ⟨_, rfl⟩

-- The first item is received, but its mark raises.
theorem not_leavesStopped :
    ¬∀ (py : PyStd) (items : List ReadyItem) (l : List Entry) (q : RobotM ReceiveResult),
      Steps (storeEnv items) [] (receivePending py boardApi) l q → q.Ended → LeavesStopped l := by
  intro h
  let pass := playPass ReadyItem.samples (fun _ => .ok .received)
    (fun _ => .error ⟨.boardError, "Board API request failed"⟩)
  have hsteps : Steps (storeEnv ReadyItem.samples) [] (receivePending .ascii boardApi) pass.2
      (ofExcept pass.1) := storeSteps_playPass
  obtain ⟨s, hs, hstopped⟩ := h _ _ _ _ hsteps ⟨_, rfl⟩
  have hlast : lastStatus pass.2 = some ⟨.running, .none, 0, ""⟩ := by decide +kernel
  cases hs.symm.trans hlast
  cases hstopped

end ReceivingApp
