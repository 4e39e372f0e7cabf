import Mathlib.Data.List.Induction
import Mathlib.Data.List.Infix
import ReceivingApp.Lib.Streak
import ReceivingApp.Theorems.Audit

open Interaction Program

namespace ReceivingApp

variable {py : PyStd} {items : List ReadyItem} {turns : List Turn} {l : List Entry}

-- ### Order

-- The items in the order of their keys, those with one key as they came.
structure StablySorted (py : PyStd) (items sorted : List ReadyItem) : Prop where
  perm    : sorted.Perm items
  ordered : sorted.Pairwise (fun a b => a.idSortKey py ≤ b.idSortKey py)
  stable  : ∀ k, sorted.filter (fun item => item.idSortKey py = k) =
    items.filter (fun item => item.idSortKey py = k)

theorem stablySorted_sortById : StablySorted py items (sortById py items) where
  perm    := List.perm_insertionSort _ _
  ordered := List.pairwise_insertionSort _ _
  stable  := by
    intro k
    let c := items.filter (fun item => item.idSortKey py = k)
    have hkey : ∀ item ∈ c, item.idSortKey py = k := fun item h => by
      simpa using (List.mem_filter.mp h).2
    have hpair : c.Pairwise (fun a b => a.idSortKey py ≤ b.idSortKey py) :=
      List.pairwise_of_forall_mem_list fun a ha b hb => ((hkey a ha).trans (hkey b hb).symm).le
    have hsub : c.Sublist (sortById py items) :=
      List.sublist_insertionSort hpair List.filter_sublist
    have hsub' := hsub.filter (fun item => item.idSortKey py = k)
    have hc : c.filter (fun item => item.idSortKey py = k) = c :=
      List.filter_eq_self.mpr fun item h => by simpa using hkey item h
    rw [hc] at hsub'
    have hperm := List.perm_insertionSort (fun a b => a.idSortKey py ≤ b.idSortKey py) items
    have hlen := (hperm.filter (fun item => item.idSortKey py = k)).length_eq
    exact (hsub'.eq_of_length hlen.symm).symm

-- ### Calls of the executor and marks

namespace Entry

def execution? : Entry → Option (ReceiveCall × Answer)
  | executed c answer => some (c, answer)
  | _                 => none

def mutation? : Entry → Option Mutation
  | mutated m _ => some m
  | _           => none

end Entry

namespace Turn

variable {t : Turn} {n : Nat}

def execution? (t : Turn) : Option (ReceiveCall × Answer) :=
  t.answer.map (t.item.call, ·)

theorem executions_calls : t.calls.filterMap Entry.execution? = t.execution?.toList := by
  have hmark : (t.mark.map (Entry.mutated · (.ok ()))).filterMap Entry.execution? = [] := by
    simp [List.filterMap_map, Function.comp_def, Entry.execution?]
  rw [calls, List.filterMap_append, hmark, List.append_nil]
  cases h : t.answer <;> simp [execution?, Entry.execution?, h]

theorem mutations_calls : t.calls.filterMap Entry.mutation? = t.mark := by
  have hcall : (t.answer.toList.map (Entry.executed t.item.call)).filterMap Entry.mutation? =
      [] := by
    simp [List.filterMap_map, Function.comp_def, Entry.mutation?]
  rw [calls, List.filterMap_append, hcall, List.nil_append]
  simp [List.filterMap_map, Function.comp_def, Entry.mutation?]

end Turn

theorem flatMap_executions :
    turns.flatMap (fun t => t.calls.filterMap Entry.execution?) =
      turns.filterMap Turn.execution? := by
  rw [List.filterMap_eq_flatMap_toList Turn.execution?]
  simp only [Turn.executions_calls]

theorem flatMap_mutations :
    turns.flatMap (fun t => t.calls.filterMap Entry.mutation?) = turns.flatMap Turn.mark := by
  simp only [Turn.mutations_calls]

section FilterMap

variable {α : Type} {f : Entry → Option α} {n : Nat}

-- What comes neither from the poll nor from a status comes from the turns.
theorem filterMap_loopJournal
    (hf : ∀ state outcome n reason r, f (.wrote state outcome n reason r) = none) :
    (loopJournal n turns).filterMap f = turns.flatMap (fun t => t.calls.filterMap f) := by
  induction turns generalizing n
  case nil => rfl
  case cons t ts ih =>
    have hstatus : (t.status n).filterMap f = [] := by
      unfold Turn.status
      split <;> simp [hf]
    simp only [loopJournal, List.filterMap_append, hstatus, ih, List.append_nil, List.flatMap_cons]

theorem filterMap_finished (items : List ReadyItem) (turns : List Turn)
    (hf : ∀ state outcome n reason r, f (.wrote state outcome n reason r) = none)
    (hp : ∀ r, f (.polled r) = none) :
    (opening items ++ loopJournal 0 turns ++ [closing turns]).filterMap f =
      turns.flatMap (fun t => t.calls.filterMap f) := by
  simp only [opening, closing, List.filterMap_append, filterMap_loopJournal hf,
    List.filterMap_cons, hf, hp, List.filterMap_nil, List.nil_append, List.append_nil]

theorem filterMap_killed (items : List ReadyItem) (turns : List Turn) (t : Turn) (n : Nat)
    (hf : ∀ state outcome n reason r, f (.wrote state outcome n reason r) = none)
    (hp : ∀ r, f (.polled r) = none) :
    (opening items ++ loopJournal 0 turns ++ t.killJournal n).filterMap f =
      (turns ++ [t]).flatMap (fun t => t.calls.filterMap f) := by
  simp only [opening, Turn.killJournal, List.filterMap_append, filterMap_loopJournal hf,
    List.filterMap_cons, hf, hp, List.filterMap_nil, List.nil_append, List.append_nil,
    List.flatMap_append, List.flatMap_cons, List.flatMap_nil]

end FilterMap

-- The processed items that are valid are those the executor was called for.
theorem executions_valid (h : ∀ t ∈ turns, t.Proper) :
    (turns.filterMap Turn.execution?).map Prod.fst =
      ((turns.map (·.item)).filter (·.isValid)).map ReadyItem.call := by
  induction turns
  case nil => rfl
  case cons t ts ih =>
    have ⟨ht, hts⟩ := List.forall_mem_cons.mp h
    have hv : t.answer.isSome = t.item.isValid := ht
    cases ha : t.answer
    case none =>
      rw [ha] at hv
      simp [Turn.execution?, ha, ← hv, ih hts]
    case some a =>
      rw [ha] at hv
      simp [Turn.execution?, ha, ← hv, ih hts]

-- ### Conservation

-- Every item of a prefix of the sorted items has its turn. The executor is called for the valid
-- ones, once for each, and the board is mutated as the marks of the turns say. A pass that returns
-- leaves no item, and one that raises ends with the turn that kills it.
def Routed (py : PyStd) (items : List ReadyItem) (l : List Entry) (q : RobotM ReceiveResult) :
    Prop :=
  ∃ (turns : List Turn) (rest : List ReadyItem),
    StablySorted py items (turns.map (·.item) ++ rest) ∧
    l.filterMap Entry.execution? = turns.filterMap Turn.execution? ∧
    (l.filterMap Entry.execution?).map Prod.fst =
      ((turns.map (·.item)).filter (·.isValid)).map ReadyItem.call ∧
    l.filterMap Entry.mutation? = turns.flatMap Turn.mark ∧
    ((∃ result, q = .pure result ∧ rest = [] ∧
        result.received + result.noMatch + result.failed + result.skipped = items.length) ∨
      (∃ e, q = .throw e ∧ e.cls = .syncKillError ∧
        ∃ ts t, turns = ts ++ [t] ∧ t.Kills (failuresAfter ts)))

theorem Finishes.routed {result : ReceiveResult} (h : Finishes py items result l) :
    Routed py items l (.pure result) := by
  obtain ⟨turns, hs, rfl, rfl⟩ := h
  have hexec := (filterMap_finished items turns (f := Entry.execution?)
    (fun _ _ _ _ _ => rfl) (fun _ => rfl)).trans flatMap_executions
  have hmark := (filterMap_finished items turns (f := Entry.mutation?)
    (fun _ _ _ _ _ => rfl) (fun _ => rfl)).trans flatMap_mutations
  have hlen : turns.length = items.length := by
    have h := congrArg List.length hs.order
    simpa only [List.append_nil, List.length_map, sortById, List.length_insertionSort] using h
  refine ⟨turns, [], ?_, hexec, hexec ▸ executions_valid hs.proper, hmark, .inl ⟨_, rfl, rfl, ?_⟩⟩
  · exact hs.order ▸ stablySorted_sortById
  · exact hlen ▸ tally_total

theorem IsKilled.routed {e : PyExc} (h : IsKilled py items e l) :
    Routed py items l (.throw e) := by
  obtain ⟨he, turns, t, rest, hs, ht, hk, rfl⟩ := h
  have hproper : ∀ t' ∈ turns ++ [t], t'.Proper := fun t' ht' =>
    (List.mem_append.mp ht').elim (hs.proper t') (fun h => List.mem_singleton.mp h ▸ ht)
  have hexec := (filterMap_killed items turns t (failuresAfter turns) (f := Entry.execution?)
    (fun _ _ _ _ _ => rfl) (fun _ => rfl)).trans flatMap_executions
  have hmark := (filterMap_killed items turns t (failuresAfter turns) (f := Entry.mutation?)
    (fun _ _ _ _ _ => rfl) (fun _ => rfl)).trans flatMap_mutations
  have hsort : StablySorted py items ((turns ++ [t]).map (·.item) ++ rest) := by
    have ho := hs.order
    simp only [List.map_append, List.map_cons, List.map_nil, List.append_assoc,
      List.singleton_append]
    exact ho ▸ stablySorted_sortById
  exact ⟨turns ++ [t], rest, hsort, hexec, hexec ▸ executions_valid hproper, hmark,
    .inr ⟨e, rfl, he, turns, t, rfl, hk⟩⟩

theorem receivePending_routed {q : RobotM ReceiveResult}
    (h : Steps (smoothEnv items) [] (receivePending py boardApi) l q) (hq : q.Ended) :
    Routed py items l q := by
  rcases receivePending_journal.ended h hq with ⟨result, rfl, hf⟩ | ⟨e, rfl, hk⟩
  · exact hf.routed
  · exact hk.routed

-- The executor receives the first item and misses the second one.
theorem receivePending_routed_sample :
    let pass := playPass ReadyItem.samples
      (fun c => .ok (if c.itemId = "I1" then .received else .notFound)) (fun _ => .ok ())
    Routed .ascii ReadyItem.samples pass.2 (ofExcept pass.1) :=
  receivePending_routed (steps_playPass fun _ _ h => by cases h) ⟨_, rfl⟩

-- ### The audit trail

-- A status without its time.
structure Status where
  state               : SyncState
  lastOutcome         : LastOutcome
  consecutiveFailures : Nat
  stoppedReason       : String
  deriving DecidableEq, Repr

def Entry.status? : Entry → Option Status
  | wrote state lastOutcome failures reason _ => some ⟨state, lastOutcome, failures, reason⟩
  | _ => none

def Entry.answer? : Entry → Option Answer
  | executed _ answer => some answer
  | _                 => none

def Answer.isError : Answer → Bool
  | .ok _    => false
  | .error _ => true

open Streak

-- The status after some answers of the executor: how many of them are errors since the last other.
def running (answers : List Answer) : Status where
  state               := .running
  lastOutcome         := if trailing Answer.isError answers = 0 then .success else .failure
  consecutiveFailures := trailing Answer.isError answers
  stoppedReason       := ""

-- One status after each answer.
def progress (answers : List Answer) : List Status :=
  answers.inits.tail.map running

theorem progress_concat {answers : List Answer} {a : Answer} :
    progress (answers ++ [a]) = progress answers ++ [running (answers ++ [a])] := by
  cases answers <;> simp [progress, List.inits_append]

theorem flatMap_answers :
    turns.flatMap (fun t => t.calls.filterMap Entry.answer?) = turns.filterMap (·.answer) := by
  have hcalls (t : Turn) : t.calls.filterMap Entry.answer? = t.answer.toList := by
    have hmark : (t.mark.map (Entry.mutated · (.ok ()))).filterMap Entry.answer? = [] := by
      simp [List.filterMap_map, Function.comp_def, Entry.answer?]
    rw [Turn.calls, List.filterMap_append, hmark, List.append_nil]
    cases h : t.answer <;> simp [Entry.answer?]
  simp only [hcalls, List.filterMap_eq_flatMap_toList]

theorem failuresAfter_eq :
    failuresAfter turns = trailing Answer.isError (turns.filterMap (·.answer)) := by
  induction turns using List.reverseRecOn
  case nil => rfl
  case append_singleton ts t ih =>
    rw [failuresAfter_append_singleton, List.filterMap_append, ih]
    unfold Turn.failures Turn.fate
    cases h : t.answer
    case none => simp [h]
    case some a =>
      cases a
      case ok outcome => cases outcome <;> simp [h, Answer.isError]
      case error e    => simp [h, Answer.isError]

theorem Turn.fate_failed_iff {t : Turn} :
    t.fate = .failed ↔ ∃ a, t.answer = some a ∧ a.isError := by
  unfold fate
  cases t.answer
  case none => simp
  case some a =>
    cases a
    case ok outcome => cases outcome <;> simp [Answer.isError]
    case error e    => simp [Answer.isError]

-- Where no turn has killed the pass, no two errors have come in a row.
theorem not_twice_of_survives
    (h : ∀ ts t ts', turns = ts ++ t :: ts' → ¬t.Kills (failuresAfter ts)) :
    ¬Twice Answer.isError (turns.filterMap (·.answer)) := by
  induction turns using List.reverseRecOn
  case nil => exact not_twice_nil
  case append_singleton ts t ih =>
    have ih := ih fun ts' t' ts'' he => h ts' t' (ts'' ++ [t]) (by simp [he])
    have hk := h ts t [] rfl
    rw [List.filterMap_append]
    cases ha : t.answer
    case none => simpa [ha] using ih
    case some a =>
      have he : [t].filterMap (·.answer) = [a] := by simp [ha]
      rw [he, twice_concat_iff, ← failuresAfter_eq]
      rintro (ht | ⟨hea, hpos⟩)
      · exact ih ht
      · exact hk ⟨Turn.fate_failed_iff.mpr ⟨a, ha, hea⟩, Nat.succ_le_succ hpos⟩

theorem twice_of_kills {t : Turn} (hk : t.Kills (failuresAfter turns)) :
    ∃ a, t.answer = some a ∧ a.isError ∧
      Twice Answer.isError (turns.filterMap (·.answer) ++ [a]) := by
  have ⟨a, ha, hea⟩ := Turn.fate_failed_iff.mp hk.1
  refine ⟨a, ha, hea, twice_concat_iff.mpr (.inr ⟨hea, ?_⟩)⟩
  exact failuresAfter_eq ▸ Nat.le_of_succ_le_succ hk.2

theorem Turn.calls_status {t : Turn} : t.calls.filterMap Entry.status? = [] := by
  simp [calls, List.filterMap_map, Function.comp_def, Entry.status?]

-- A turn with an answer writes the status for all answers so far.
theorem Turn.status_eq (t : Turn) (ts : List Turn) :
    (t.status (failuresAfter ts)).filterMap Entry.status? =
      t.answer.toList.map (fun a => running (ts.filterMap (·.answer) ++ [a])) := by
  unfold Turn.status Turn.failures Turn.fate
  cases t.answer
  case none => rfl
  case some a =>
    cases a
    case ok outcome => cases outcome <;> simp [Entry.status?, running, Answer.isError]
    case error e    => simp [Entry.status?, running, Answer.isError, failuresAfter_eq]

theorem statuses_loopJournal :
    (loopJournal 0 turns).filterMap Entry.status? = progress (turns.filterMap (·.answer)) := by
  induction turns using List.reverseRecOn
  case nil => rfl
  case append_singleton ts t ih =>
    have hs := Turn.status_eq t ts
    rw [failuresAfter] at hs
    rw [loopJournal_append_singleton, List.filterMap_append, List.filterMap_append, ih,
      Turn.calls_status, hs, List.nil_append, List.filterMap_append]
    cases ha : t.answer
    case none   => simp [ha]
    case some a => simp [ha, progress_concat]

-- A pass is killed exactly by the second of two errors in a row, which is the last answer it gets.
-- Its statuses are: one at the start, one after each answer, and one at the end, which on a kill
-- stands for that of the last answer.
structure Audited (l : List Entry) (q : RobotM ReceiveResult) : Prop where
  kills    : (∃ e, q = .throw e) ↔ Twice Answer.isError (l.filterMap Entry.answer?)
  returned : ∀ result, q = .pure result → l.filterMap Entry.status? =
    ⟨.running, .none, 0, ""⟩ :: progress (l.filterMap Entry.answer?) ++ [{
      state               := .stopped
      lastOutcome         :=
        if (l.filterMap Entry.answer?).any Answer.isError then .failure else .success
      consecutiveFailures := trailing Answer.isError (l.filterMap Entry.answer?)
      stoppedReason       := "" }]
  killed   : ∀ e, q = .throw e → e.cls = .syncKillError ∧
    ∃ answers a reason, l.filterMap Entry.answer? = answers ++ [a] ∧
      ¬Twice Answer.isError answers ∧ reason ≠ "" ∧ l.filterMap Entry.status? =
        ⟨.running, .none, 0, ""⟩ :: progress answers ++ [{
          state               := .stopped
          lastOutcome         := .kill
          consecutiveFailures := trailing Answer.isError (answers ++ [a])
          stoppedReason       := reason }]

theorem killReason_ne (n : Nat) : killReason n ≠ "" := by
  simp [killReason]

theorem failed_pos_iff :
    0 < (tally turns).failed ↔ (turns.filterMap (·.answer)).any Answer.isError := by
  simp only [tally, List.countP_pos_iff, decide_eq_true_eq, Turn.fate_failed_iff,
    List.any_eq_true, List.mem_filterMap]
  constructor
  case mp =>
    rintro ⟨t, ht, a, ha, he⟩
    exact ⟨a, ⟨t, ht, ha⟩, he⟩
  case mpr =>
    rintro ⟨a, ⟨t, ht, ha⟩, he⟩
    exact ⟨t, ht, a, ha, he⟩

theorem Finishes.audited {result : ReceiveResult} (h : Finishes py items result l) :
    Audited l (.pure result) := by
  obtain ⟨turns, hs, rfl, rfl⟩ := h
  have hanswers := (filterMap_finished items turns (f := Entry.answer?)
    (fun _ _ _ _ _ => rfl) (fun _ => rfl)).trans flatMap_answers
  have hnot := not_twice_of_survives hs.survives
  constructor
  case kills =>
    rw [hanswers]
    exact iff_of_false (fun ⟨_, h⟩ => nomatch h) hnot
  case returned =>
    intro _ _
    rw [hanswers]
    simp only [List.filterMap_append, opening, closing, statuses_loopJournal, failed_pos_iff,
      failuresAfter_eq]
    rfl
  case killed => exact fun _ h => nomatch h

theorem IsKilled.audited {e : PyExc} (h : IsKilled py items e l) : Audited l (.throw e) := by
  obtain ⟨he, turns, t, rest, hs, ht, hk, rfl⟩ := h
  have ⟨a, ha, hea, htwice⟩ := twice_of_kills hk
  have hanswers : (opening items ++ loopJournal 0 turns ++
      t.killJournal (failuresAfter turns)).filterMap Entry.answer? =
        turns.filterMap (·.answer) ++ [a] := by
    rw [filterMap_killed items turns t _ (fun _ _ _ _ _ => rfl) (fun _ => rfl), flatMap_answers]
    simp [ha]
  constructor
  case kills    => exact iff_of_true ⟨e, rfl⟩ (hanswers ▸ htwice)
  case returned => exact fun _ h => nomatch h
  case killed =>
    rintro _ ⟨⟩
    refine ⟨he, _, a, killReason (failuresAfter turns + 1), hanswers,
      not_twice_of_survives hs.survives, killReason_ne _, ?_⟩
    simp only [List.filterMap_append, opening, Turn.killJournal, Turn.calls_status,
      statuses_loopJournal, trailing_concat, hea, if_true, failuresAfter_eq]
    rfl

theorem receivePending_audited {q : RobotM ReceiveResult}
    (h : Steps (smoothEnv items) [] (receivePending py boardApi) l q) (hq : q.Ended) :
    Audited l q := by
  rcases receivePending_journal.ended h hq with ⟨result, rfl, hf⟩ | ⟨e, rfl, hk⟩
  · exact hf.audited
  · exact hk.audited

-- The executor fails twice.
theorem receivePending_audited_sample :
    let pass := playPass ReadyItem.samples (fun _ => .error ExecutorError) (fun _ => .ok ())
    Audited pass.2 (ofExcept pass.1) :=
  receivePending_audited (steps_playPass fun _ _ h => by cases h; rfl) ⟨_, rfl⟩

end ReceivingApp
