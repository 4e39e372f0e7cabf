import Mathlib.Data.List.Pairwise
import ReceivingApp.Theorems.Passes

open Interaction Program Allocation

namespace ReceivingApp

-- ### Batches

def ReadyItem.number (py : PyStd) (item : ReadyItem) : Option Int :=
  item.inventoryId.bind py.parseInt

def Attempt.number (py : PyStd) (a : Attempt) : Option Int :=
  py.parseInt a.call.inventoryId

-- The numbers of the items of a batch that are of a given PO and model.
def numbersFor (py : PyStd) (batch : List ReadyItem) (po model : String) : Finset Int :=
  ((batch.filter (fun item => item.poNumber = some po ∧ item.model = some model)).filterMap
    (·.number py)).toFinset

-- A batch with distinct numeric ids, which for each PO and model are the lowest that the portal has
-- open.
structure LowestOpen (py : PyStd) (batch : List ReadyItem)
    (openIds : String → String → Finset Int) : Prop where
  numeric  : ∀ item ∈ batch, (item.number py).isSome
  distinct : batch.Pairwise (fun i j => i.number py ≠ j.number py)
  lowest   : ∀ po model, Head (numbersFor py batch po model) (openIds po model)

section

variable {py : PyStd} {batch items : List ReadyItem} {item item' : ReadyItem}
variable {po model : String} {n m : Int}

theorem mem_numbersFor : n ∈ numbersFor py batch po model ↔
    ∃ item ∈ batch, item.poNumber = some po ∧ item.model = some model ∧
      item.number py = some n := by
  simp [numbersFor, and_assoc]

-- The executor is given the number of the item.
theorem ReadyItem.parseInt_call (h : item.number py = some n) :
    py.parseInt item.call.inventoryId = some n := by
  unfold number at h
  have ⟨s, hs, hn⟩ := Option.bind_eq_some_iff.mp h
  rw [call, hs]
  exact hn

theorem ReadyItem.orEmpty_eq {x : Option String} (h : orEmpty x ≠ "") : x = some (orEmpty x) := by
  cases x
  case none => exact absurd rfl h
  case some => rfl

theorem ReadyItem.poNumber_eq (h : item.isValid) : item.poNumber = some item.call.poNumber := by
  simp only [isValid, List.all_cons, Bool.and_eq_true, decide_eq_true_eq] at h
  exact orEmpty_eq h.2.1

theorem ReadyItem.model_eq (h : item.isValid) : item.model = some item.call.model := by
  simp only [isValid, List.all_cons, Bool.and_eq_true, decide_eq_true_eq] at h
  exact orEmpty_eq h.2.2.2.1

theorem LowestOpen.eq_of_number_eq {openIds : String → String → Finset Int}
    (h : LowestOpen py batch openIds) (hi : item ∈ batch) (hi' : item' ∈ batch)
    (he : item.number py = item'.number py) : item = item' := by
  have : Std.Symm (fun i j : ReadyItem => i.number py ≠ j.number py) := ⟨fun _ _ h => h.symm⟩
  by_contra hne
  exact h.distinct.forall hi hi' hne he

-- Item by item, the numbers go up.
abbrev Ascending (py : PyStd) : List ReadyItem → Prop :=
  List.Pairwise (fun i j => ∀ n m, i.number py = some n → j.number py = some m → n < m)

theorem LowestOpen.ascending_sortById {openIds : String → String → Finset Int}
    (h : LowestOpen py batch openIds) : Ascending py (sortById py batch) := by
  have hle := List.pairwise_insertionSort (fun i j => i.idSortKey py ≤ j.idSortKey py) batch
  have hne : (sortById py batch).Pairwise (fun i j => i.number py ≠ j.number py) :=
    (List.perm_insertionSort _ batch).symm.pairwise h.distinct (fun h => h.symm)
  refine (hle.and hne).imp fun {i j} ⟨hij, hne⟩ n m hn hm => ?_
  have hkey {i : ReadyItem} {n : Int} (hn : i.number py = some n) :
      i.idSortKey py = toLex (0, n) := by
    unfold ReadyItem.number at hn
    rw [ReadyItem.idSortKey, hn]
  rw [hkey hn, hkey hm, Prod.Lex.toLex_le_toLex] at hij
  rw [hn, hm] at hne
  rcases hij with hlt | ⟨_, hle⟩
  case inl => exact absurd hlt (lt_irrefl _)
  case inr => exact lt_of_le_of_ne hle fun he => hne (congrArg some he)

-- ### What the portal has bound

-- The numbers of the items of a PO and model that have been received.
def receivedNumbers (py : PyStd) (po model : String) (w : RobotWorld) : Finset Int :=
  ((w.attempts.filter (fun a =>
    a.outcome = some .received ∧ a.call.poNumber = po ∧ a.call.model = model)).filterMap
      (·.number py)).toFinset

variable {w : RobotWorld} {openIds : String → String → Finset Int}

theorem mem_receivedNumbers : n ∈ receivedNumbers py po model w ↔
    ∃ a ∈ w.attempts, a.outcome = some .received ∧ a.call.poNumber = po ∧ a.call.model = model ∧
      a.number py = some n := by
  simp [receivedNumbers, and_assoc]

theorem receivedNumbers_attempt {call : ReceiveCall} {outcome : Option ReceiveOutcome}
    (h : outcome ≠ some .received) :
    receivedNumbers py po model (w.attempt call outcome) = receivedNumbers py po model w := by
  simp [receivedNumbers, RobotWorld.attempt, List.filter_append, h]

theorem mem_receivedNumbers_receive {call : ReceiveCall} {k : Int}
    (h : py.parseInt call.inventoryId = some n) :
    k ∈ receivedNumbers py po model (w.receive call) ↔
      k ∈ receivedNumbers py po model w ∨ (call.poNumber = po ∧ call.model = model ∧ n = k) := by
  have hk (b : Option Int) : (⟨call, some .received, b⟩ : Attempt).number py = some n := h
  simp only [mem_receivedNumbers, RobotWorld.receive, List.mem_append, List.mem_singleton,
    or_and_right, exists_or, exists_eq_left, hk, true_and, Option.some.injEq]

theorem receivedNumbers_receive {call : ReceiveCall} (h : py.parseInt call.inventoryId = some n) :
    receivedNumbers py po model (w.receive call) =
      if po = call.poNumber ∧ model = call.model then insert n (receivedNumbers py po model w)
      else receivedNumbers py po model w := by
  ext k
  rw [mem_receivedNumbers_receive h]
  split
  case isTrue hc =>
    obtain ⟨rfl, rfl⟩ := hc
    simp [Finset.mem_insert, or_comm, eq_comm]
  case isFalse hc => exact or_iff_left fun h => hc ⟨h.1.symm, h.2.1.symm⟩

-- Where a pass stands before the given items. Each attempt is that of an item of the batch with a
-- lower number, the portal has served one number for each item that was received, and a serial is
-- bound to its own number just if all lower ones have been received.
structure Dispatched (py : PyStd) (batch : List ReadyItem) (openIds : String → String → Finset Int)
    (items : List ReadyItem) (w : RobotWorld) : Prop where
  subset    : items ⊆ batch
  ascending : Ascending py items
  attempted : ∀ a ∈ w.attempts, ∃ item ∈ batch, item.isValid ∧ a.call = item.call
  beyond    : ∀ a ∈ w.attempts, ∀ item ∈ items, ∀ n m, a.number py = some n →
    item.number py = some m → n < m
  served    : ∀ po model,
    Served (openIds po model) (w.openIds po model) (receivedNumbers py po model w)
  bound     : ∀ a ∈ w.attempts, a.outcome = some .received → ∀ n, a.number py = some n →
    (a.boundTo = some n ↔ below (openIds a.call.poNumber a.call.model) n ⊆
      receivedNumbers py a.call.poNumber a.call.model w)

namespace Dispatched

variable {w' : RobotWorld}

theorem mono (h : Dispatched py batch openIds items w) {items' : List ReadyItem}
    (hs : items'.Sublist items) : Dispatched py batch openIds items' w where
  subset    := fun _ hi => h.subset (hs.subset hi)
  ascending := h.ascending.sublist hs
  attempted := h.attempted
  beyond a ha item hi := h.beyond a ha item (hs.subset hi)
  served    := h.served
  bound     := h.bound

-- It only says something about the attempts and the portal.
theorem congr (h : Dispatched py batch openIds items w) (ha : w'.attempts = w.attempts)
    (ho : w'.openIds = w.openIds) : Dispatched py batch openIds items w' := by
  have hr (po model : String) : receivedNumbers py po model w' = receivedNumbers py po model w := by
    rw [receivedNumbers, receivedNumbers, ha]
  refine ⟨h.subset, h.ascending, ha ▸ h.attempted, ha ▸ h.beyond, fun po model => ?_, ?_⟩
  · rw [ho, hr]
    exact h.served po model
  · rw [ha]
    simp only [hr]
    exact h.bound

theorem kept : KeptByMarks (Dispatched py batch openIds items) := by
  intro β op w r w' hm ha h
  rcases RobotWorld.mark_cases hm ha with ⟨m, _, rfl | ⟨applied, rfl⟩⟩ | ⟨status, rfl⟩
  case inl.inl | inl.inr | inr => exact h.congr rfl rfl

theorem start (h : LowestOpen py w.board.readyItems w.openIds) (hw : w.attempts = []) :
    Dispatched py w.board.readyItems w.openIds (sortById py w.board.readyItems) w where
  subset    := (List.perm_insertionSort _ _).subset
  ascending := h.ascending_sortById
  attempted := by simp [hw]
  beyond    := by simp [hw]
  served po model := by
    have hr : receivedNumbers py po model w = ∅ := by simp [receivedNumbers, hw]
    rw [hr]
    exact .refl
  bound     := by simp [hw]

-- ### One turn

section

variable (hb : LowestOpen py batch openIds) (h : Dispatched py batch openIds (item :: items) w)
variable (hv : item.isValid)

include hb in
theorem exists_item {a : Attempt} (h : Dispatched py batch openIds items w) (ha : a ∈ w.attempts)
    (hn : a.number py = some n) : ∃ item ∈ batch, item.isValid ∧ a.call = item.call ∧
      item.number py = some n := by
  have ⟨item, hi, hv, he⟩ := h.attempted a ha
  have ⟨m, hm⟩ := Option.isSome_iff_exists.mp (hb.numeric item hi)
  rw [Attempt.number, he, ReadyItem.parseInt_call hm] at hn
  exact ⟨item, hi, hv, he, hm.trans hn⟩

include h hv in
theorem attempted_append {a : Attempt} (he : a.call = item.call) :
    ∀ a' ∈ w.attempts ++ [a], ∃ item ∈ batch, item.isValid ∧ a'.call = item.call := by
  intro a' ha'
  rcases List.mem_append.mp ha' with ha' | ha'
  case inl => exact h.attempted a' ha'
  case inr =>
    obtain rfl := List.mem_singleton.mp ha'
    exact ⟨item, h.subset (List.mem_cons_self ..), hv, he⟩

include h in
theorem beyond_append {a : Attempt} (he : a.call = item.call) (hn : item.number py = some n) :
    ∀ a' ∈ w.attempts ++ [a], ∀ item' ∈ items, ∀ k m, a'.number py = some k →
      item'.number py = some m → k < m := by
  intro a' ha' item' hi' k m hk hm
  rcases List.mem_append.mp ha' with ha' | ha'
  case inl => exact h.beyond a' ha' item' (List.mem_cons_of_mem _ hi') k m hk hm
  case inr =>
    obtain rfl := List.mem_singleton.mp ha'
    rw [Attempt.number, he, ReadyItem.parseInt_call hn] at hk
    exact (List.pairwise_cons.mp h.ascending).1 item' hi' k m (hn.trans hk) hm

include hb h in
-- All that has been received of the item's model is below it.
theorem received_subset_below (hn : item.number py = some n) :
    receivedNumbers py po model w ⊆ below (openIds po model) n := by
  intro k hk
  obtain ⟨a, ha, _, rfl, rfl, hak⟩ := mem_receivedNumbers.mp hk
  have ⟨item', hi', hv', he, hk'⟩ := h.exists_item hb ha hak
  have hmem : k ∈ numbersFor py batch a.call.poNumber a.call.model :=
    mem_numbersFor.mpr ⟨item', hi', he ▸ item'.poNumber_eq hv', he ▸ item'.model_eq hv', hk'⟩
  have hlt : k < n := h.beyond a ha item (List.mem_cons_self ..) k n hak hn
  exact Finset.mem_filter.mpr ⟨(hb.lowest _ _).subset hmem, hlt⟩

include hb h hv in
theorem attempt {outcome : Option ReceiveOutcome} (ho : outcome ≠ some .received) :
    Dispatched py batch openIds items (w.attempt item.call outcome) := by
  have ⟨n, hn⟩ := Option.isSome_iff_exists.mp (hb.numeric item (h.subset (List.mem_cons_self ..)))
  have ht := h.mono (List.sublist_cons_self item items)
  refine ⟨ht.subset, ht.ascending, h.attempted_append hv rfl, h.beyond_append rfl hn, ?_, ?_⟩
  case refine_1 =>
    intro po model
    rw [receivedNumbers_attempt ho]
    exact h.served po model
  case refine_2 =>
    intro a ha hr
    rw [receivedNumbers_attempt ho]
    rcases List.mem_append.mp ha with ha | ha
    case inl => exact h.bound a ha hr
    case inr =>
      obtain rfl := List.mem_singleton.mp ha
      exact absurd hr ho

include hb h hv in
-- The item gets its own number just if it is its turn, and those before it keep theirs.
theorem receive : Dispatched py batch openIds items (w.receive item.call) := by
  have hi : item ∈ batch := h.subset (List.mem_cons_self ..)
  have ⟨n, hn⟩ := Option.isSome_iff_exists.mp (hb.numeric item hi)
  have hcall : py.parseInt item.call.inventoryId = some n := ReadyItem.parseInt_call hn
  have hopen : n ∈ openIds item.call.poNumber item.call.model :=
    (hb.lowest _ _).subset <|
      mem_numbersFor.mpr ⟨item, hi, item.poNumber_eq hv, item.model_eq hv, hn⟩
  have ht := h.mono (List.sublist_cons_self item items)
  refine ⟨ht.subset, ht.ascending, h.attempted_append hv rfl, h.beyond_append rfl hn, ?_, ?_⟩
  case refine_1 =>
    intro po model
    rw [receivedNumbers_receive hcall]
    simp only [RobotWorld.receive]
    split
    case isTrue hc =>
      obtain ⟨rfl, rfl⟩ := hc
      exact (h.served _ _).take hopen (h.received_subset_below hb hn)
    case isFalse => exact h.served po model
  case refine_2 =>
    intro a ha hr k hk
    -- The new number is above all numbers in question.
    have hsub (R : Finset Int) {k : Int} (hkn : k ≤ n) :
        below (openIds a.call.poNumber a.call.model) k ⊆ insert n R ↔
          below (openIds a.call.poNumber a.call.model) k ⊆ R :=
      Finset.subset_insert_iff_of_notMem fun hm => (Finset.mem_filter.mp hm).2.not_ge hkn
    rw [receivedNumbers_receive hcall]
    rcases List.mem_append.mp ha with ha | ha
    case inl =>
      have hkn : k < n := h.beyond a ha item (List.mem_cons_self ..) k n hk hn
      split
      case isTrue  => rw [hsub _ hkn.le, h.bound a ha hr k hk]
      case isFalse => exact h.bound a ha hr k hk
    case inr =>
      obtain rfl := List.mem_singleton.mp ha
      obtain rfl : n = k := Option.some.inj (hcall.symm.trans hk)
      rw [if_pos ⟨rfl, rfl⟩, hsub _ le_rfl]
      exact (h.served _ _).next_iff hopen (h.received_subset_below hb hn)

include hb h in
theorem receiveNext {c : Counters} :
    (receiveNext boardApi c item).wp RobotWorld.Answers (Dispatched py batch openIds [])
      (fun _ => Dispatched py batch openIds items)
      (fun _ => Dispatched py batch openIds items) w := by
  have hI (w : RobotWorld) (h : Dispatched py batch openIds items w) :
      Dispatched py batch openIds [] w := h.mono (List.nil_sublist _)
  apply receiveNext_wp kept hI (h.mono (List.nil_sublist _))
  · exact fun _ => h.mono (List.sublist_cons_self item items)
  · exact fun outcome hv ho => h.attempt hb hv ho
  · exact fun hv => kept.wp hI uses_markReceived (h.receive hb hv)

end

end Dispatched

-- ### A whole pass

theorem dispatched_of_steps {w w' : RobotWorld} {q : RobotM ReceiveResult}
    (hb : LowestOpen py w.board.readyItems w.openIds) (hw : w.attempts = [])
    (hs : Steps RobotWorld.Answers w (receivePending py boardApi) w' q) :
    Dispatched py w.board.readyItems w.openIds [] w' := by
  have hwp := receivePending_wp (J := Dispatched py w.board.readyItems w.openIds)
    (I := Dispatched py w.board.readyItems w.openIds []) (fun _ => Dispatched.kept)
    (fun _ _ h => h.mono (List.nil_sublist _)) (fun _ h => h)
    (fun _ _ _ _ h => h.receiveNext hb) (Dispatched.start hb hw)
  exact hwp.invariant hs

-- Each item that was received has its serial bound to its own inventory_id.
def BindsOwn (py : PyStd) (w : RobotWorld) : Prop :=
  ∀ a ∈ w.attempts, a.outcome = some .received → a.boundTo = a.number py

-- No item was received while one of the same PO and model with a lower number was not.
def NoneSkipped (py : PyStd) (batch : List ReadyItem) (w : RobotWorld) : Prop :=
  ∀ a ∈ w.attempts, a.outcome = some .received → ∀ item ∈ batch,
    item.poNumber = some a.call.poNumber → item.model = some a.call.model →
    (∀ m n, item.number py = some m → a.number py = some n → m < n) →
    ∃ a' ∈ w.attempts, a'.outcome = some .received ∧ a'.call = item.call

theorem bindsOwn_iff {w w' : RobotWorld} {q : RobotM ReceiveResult}
    (hb : LowestOpen py w.board.readyItems w.openIds) (hw : w.attempts = [])
    (hs : Steps RobotWorld.Answers w (receivePending py boardApi) w' q) :
    BindsOwn py w' ↔ NoneSkipped py w.board.readyItems w' := by
  have h := dispatched_of_steps hb hw hs
  apply forall₃_congr
  intro a ha hr
  have ⟨item₀, hi₀, hv₀, he₀⟩ := h.attempted a ha
  have ⟨n, hn₀⟩ := Option.isSome_iff_exists.mp (hb.numeric item₀ hi₀)
  have hn : a.number py = some n := by
    rw [Attempt.number, he₀]
    exact ReadyItem.parseInt_call hn₀
  have hmem : n ∈ numbersFor py w.board.readyItems a.call.poNumber a.call.model :=
    mem_numbersFor.mpr ⟨item₀, hi₀, he₀ ▸ item₀.poNumber_eq hv₀, he₀ ▸ item₀.model_eq hv₀, hn₀⟩
  rw [hn, h.bound a ha hr n hn, ← (hb.lowest _ _).below_eq hmem]
  constructor
  case mp =>
    intro hsub item hi hpo hmodel hlt
    have ⟨m, hm⟩ := Option.isSome_iff_exists.mp (hb.numeric item hi)
    have hbelow : m ∈ below (numbersFor py w.board.readyItems a.call.poNumber a.call.model) n :=
      Finset.mem_filter.mpr
        ⟨mem_numbersFor.mpr ⟨item, hi, hpo, hmodel, hm⟩, hlt m n hm rfl⟩
    have ⟨a', ha', hr', _, _, hm'⟩ := mem_receivedNumbers.mp (hsub hbelow)
    have ⟨item', hi', _, he', hn'⟩ := h.exists_item hb ha' hm'
    obtain rfl := hb.eq_of_number_eq hi hi' (hm.trans hn'.symm)
    exact ⟨a', ha', hr', he'⟩
  case mpr =>
    intro hall m hm
    have ⟨hm, hlt⟩ := Finset.mem_filter.mp hm
    have ⟨item, hi, hpo, hmodel, hm⟩ := mem_numbersFor.mp hm
    have ⟨a', ha', hr', he'⟩ := hall item hi hpo hmodel fun k n' hk hn' => by
      obtain rfl := Option.some.inj (hm.symm.trans hk)
      exact Option.some.inj hn' ▸ hlt
    refine mem_receivedNumbers.mpr ⟨a', ha', hr', ?_, ?_, ?_⟩
    · rw [he', ReadyItem.call, hpo]; rfl
    · rw [he', ReadyItem.call, hmodel]; rfl
    · rw [Attempt.number, he']; exact ReadyItem.parseInt_call hm

end

-- ### A serial bound to another unit

-- Two units of one model, both of which the portal has open.
def RobotWorld.sameModel : RobotWorld :=
  .init
    ⟨[⟨"I1", "P", some "101", some "A", some "S1", "READY", .ready⟩,
      ⟨"I2", "P", some "102", some "A", some "S2", "READY", .ready⟩], by simp [BoardItem.key]⟩
    (fun po model => if po = "P" ∧ model = "A" then {101, 102} else ∅)

-- The wizard does not find the row for the first of them.
def RobotWorld.missFirst : Handler RobotCall PyExc RobotWorld :=
  play (fun call => .ok (if call.inventoryId = "101" then .notFound else .received))
    (fun _ _ => false)

def RobotWorld.missed : RobotWorld :=
  ((receivePending .ascii boardApi).run missFirst sameModel).2

theorem lowestOpen_sameModel :
    LowestOpen .ascii RobotWorld.sameModel.board.readyItems RobotWorld.sameModel.openIds where
  numeric  := by decide +kernel
  distinct := by decide +kernel
  lowest po model := by
    by_cases h : po = "P" ∧ model = "A"
    case pos =>
      obtain ⟨rfl, rfl⟩ := h
      have he : numbersFor .ascii RobotWorld.sameModel.board.readyItems "P" "A" =
          RobotWorld.sameModel.openIds "P" "A" := by decide +kernel
      rw [he]
      exact ⟨Finset.Subset.refl _, fun _ hy _ => hy⟩
    case neg =>
      have he : RobotWorld.sameModel.openIds po model = ∅ := if_neg h
      have hn : numbersFor .ascii RobotWorld.sameModel.board.readyItems po model = ∅ := by
        refine Finset.eq_empty_of_forall_notMem fun n hn => h ?_
        have ⟨item, hi, hpo, hmodel, _⟩ := mem_numbersFor.mp hn
        have hall : ∀ item ∈ RobotWorld.sameModel.board.readyItems,
            item.poNumber = some "P" ∧ item.model = some "A" := by decide +kernel
        have ⟨hP, hA⟩ := hall item hi
        exact ⟨Option.some.inj (hpo.symm.trans hP), Option.some.inj (hmodel.symm.trans hA)⟩
      rw [he, hn]
      exact ⟨Finset.Subset.refl _, fun _ hy _ => hy⟩

theorem bindsOwn_sameModel : BindsOwn .ascii .missed ↔
    NoneSkipped .ascii RobotWorld.sameModel.board.readyItems .missed :=
  bindsOwn_iff lowestOpen_sameModel rfl (steps_run RobotWorld.answers_play _ _)

theorem not_bindsOwn : ¬∀ (py : PyStd) (w w' : RobotWorld) (q : RobotM ReceiveResult),
    LowestOpen py w.board.readyItems w.openIds → w.attempts = [] →
    Steps RobotWorld.Answers w (receivePending py boardApi) w' q → BindsOwn py w' := by
  intro h
  have hown : BindsOwn .ascii .missed :=
    h _ _ _ _ lowestOpen_sameModel rfl (steps_run RobotWorld.answers_play _ _)
  have hmem : (⟨⟨"I2", "P", "102", "A", "S2"⟩, some .received, some 101⟩ : Attempt) ∈
      RobotWorld.missed.attempts := by decide +kernel
  exact absurd (hown _ hmem rfl) (by decide)

end ReceivingApp
