import ReceivingApp.Lib.Protocol
import ReceivingApp.Theorems.Traceability

open Interaction Program

namespace ReceivingApp

-- ### A post that nobody interrupts

section Posts

variable {sink : SinkId} {id : String} {item : CreatedItem} {s s' : Shop} {x : Except PyExc Unit}
variable {created : Option CreatedItem}

-- What an adapter comes to that has found the receiving_id in its set, and one that has not.
theorem Shop.posts_iff_of_mem (h : id ∈ s.world.seen sink) :
    s.Posts sink id item x created s' ↔ x = .ok () ∧ created = none ∧ s' = s := by
  constructor
  case mp =>
    rintro (_ | hs | ⟨_, hs⟩ | ⟨_, hs⟩)
    case seen => exact ⟨rfl, rfl, rfl⟩
    all_goals exact absurd h hs
  case mpr =>
    rintro ⟨rfl, rfl, rfl⟩
    exact .seen h

theorem Shop.posts_iff_of_notMem (h : id ∉ s.world.seen sink) :
    s.Posts sink id item x created s' ↔
      (∃ s₁, s.Creates sink id item (.ok ()) created s₁ ∧ x = .ok () ∧
        s' = s₁.remember sink id) ∨
      ∃ e, s.Creates sink id item (.error e) created s' ∧ x = .error e := by
  constructor
  case mp =>
    rintro (hs | _ | ⟨e, _⟩ | ⟨e, _⟩)
    · exact absurd hs h
    · exact .inl ⟨_, .created, rfl, rfl⟩
    · exact .inr ⟨e, .failed e, rfl⟩
    · exact .inr ⟨e, .lost e, rfl⟩
  case mpr =>
    rintro (⟨_, ⟨⟩, rfl, rfl⟩ | ⟨e, ⟨⟩, rfl⟩)
    · exact .posted h
    · exact .failed e h
    · exact .lost e h

end Posts

namespace Site

section Ends

variable {s s' : Site} {sink : SinkId} {id : String} {item : CreatedItem} {x : Except PyExc Unit}

theorem answers_isSeen_iff {r : Except PyExc Bool} :
    Answers Bool (.adapter (.isSeen sink id)) s r s' ↔
      r = .ok (decide (id ∈ s.shop.world.seen sink)) ∧ s' = s := by
  constructor
  case mp =>
    rintro ⟨_, _, ⟨hr, rfl, hshop⟩, rfl, hrobot⟩
    exact ⟨hr, Site.ext hshop hrobot⟩
  case mpr =>
    rintro ⟨rfl, rfl⟩
    exact ⟨none, _, ⟨rfl, rfl, rfl⟩, rfl, rfl⟩

theorem answers_remember_iff :
    Answers Unit (.adapter (.remember sink id)) s x s' ↔
      x = .ok () ∧ s' = { s with shop := s.shop.remember sink id } := by
  constructor
  case mp =>
    rintro ⟨_, _, ⟨hr, rfl, hshop⟩, rfl, hrobot⟩
    exact ⟨hr, Site.ext hshop hrobot⟩
  case mpr =>
    rintro ⟨rfl, rfl⟩
    exact ⟨none, _, ⟨rfl, rfl, rfl⟩, rfl, rfl⟩

-- Who is not interrupted posts what is not yet known, and knows it then.
theorem ends_post_iff : Ends Answers s (post sink id item) s' x ↔
    ∃ created board, s.shop.Posts sink id item x created s'.shop ∧
      Lists created s.robot.board board ∧ s'.robot = { s.robot with board } := by
  rw [post, ends_bind_iff]
  simp only [ends_perform_iff, answers_isSeen_iff]
  by_cases hk : id ∈ s.shop.world.seen sink
  case pos =>
    simp only [Shop.posts_iff_of_mem hk]
    constructor
    case mp =>
      rintro (⟨_, _, ⟨⟨⟩, rfl⟩, hs⟩ | ⟨_, ⟨⟨⟩, -⟩, -⟩)
      simp only [hk, decide_true, if_true] at hs
      obtain ⟨rfl, rfl⟩ := ends_pure_iff.mp hs
      exact ⟨none, _, ⟨rfl, rfl, rfl⟩, rfl, rfl⟩
    case mpr =>
      rintro ⟨_, _, ⟨rfl, rfl, hshop⟩, rfl, hrobot⟩
      refine .inl ⟨true, s, ⟨by simp [hk], rfl⟩, ends_pure_iff.mpr ⟨?_, rfl⟩⟩
      exact Site.ext hshop hrobot
  case neg =>
    simp only [Shop.posts_iff_of_notMem hk]
    constructor
    case mp =>
      rintro (⟨_, _, ⟨⟨⟩, rfl⟩, hs⟩ | ⟨_, ⟨⟨⟩, -⟩, -⟩)
      simp only [hk, decide_false, Bool.false_eq_true, if_false] at hs
      rcases ends_bind_iff.mp hs with ⟨_, s₂, hc, hr⟩ | ⟨e, hc, rfl⟩
      all_goals obtain ⟨created, board, hcreates, hlists, hrobot⟩ := ends_perform_iff.mp hc
      case inl =>
        obtain ⟨rfl, rfl⟩ := answers_remember_iff.mp (ends_perform_iff.mp hr)
        exact ⟨created, board, .inl ⟨_, hcreates, rfl, rfl⟩, hlists, hrobot⟩
      case inr => exact ⟨created, board, .inr ⟨e, hcreates, rfl⟩, hlists, hrobot⟩
    case mpr =>
      rintro ⟨created, board, hposts, hlists, hrobot⟩
      refine .inl ⟨false, s, ⟨by simp [hk], rfl⟩, ends_bind_iff.mpr ?_⟩
      rcases hposts with ⟨sh, hcreates, rfl, hs⟩ | ⟨e, hcreates, rfl⟩
      case inl =>
        refine .inl ⟨(), ⟨sh, s'.robot⟩, ends_perform_iff.mpr ?_, ends_perform_iff.mpr ?_⟩
        · exact ⟨created, board, hcreates, hlists, hrobot⟩
        · exact answers_remember_iff.mpr ⟨rfl, congrArg (Site.mk · s'.robot) hs⟩
      case inr =>
        refine .inr ⟨e, ends_perform_iff.mpr ?_, rfl⟩
        exact ⟨created, board, hcreates, hlists, hrobot⟩

-- Without interruption the steps of an adapter come to the call of the scanners.
theorem ends_calls_iff {β : Type} {op : Port β} {r : Except PyExc β} :
    Ends Answers s (calls op) s' r ↔
      ∃ created board, Shop.Step β op s.shop r created s'.shop ∧
        Lists created s.robot.board board ∧ s'.robot = { s.robot with board } := by
  cases op
  case emit | surfaceAttention => exact ends_post_iff
  all_goals
    rw [calls_of_not_isSink rfl, ends_perform_iff]
    constructor
    case mp => exact fun ⟨hstep, hrobot⟩ => ⟨none, _, hstep, rfl, hrobot⟩
    case mpr =>
      rintro ⟨_, _, ⟨world, he, rfl, hs⟩, rfl, hrobot⟩
      exact ⟨⟨world, he, rfl, hs⟩, hrobot⟩

end Ends

-- ### The phases of a post

inductive Phase
  | idle
  | looked (sink : SinkId) (id : String)
  | adding (sink : SinkId) (id : String)
  deriving DecidableEq

-- An adapter creates an item after it has not found the receiving_id in its set, and adds to the set
-- after it has created the item.
def Phase.next : ∀ {β : Type}, AdapterCall β → Except PyExc β → Phase → Option Phase
  | _, .isSeen sink id, r, t =>
    if t = .idle then
      match r with
      | .ok false => some (.looked sink id)
      | _         => some .idle
    else none
  | _, .create sink id _, r, t =>
    if t = .looked sink id then
      match r with
      | .ok _    => some (.adding sink id)
      | .error _ => some .idle
    else none
  | _, .remember sink id, _, t => if t = .adding sink id then some .idle else none

def posting : Protocol SiteCall PyExc Phase where
  rest := .idle
  next
    | _, .adapter op, r, t => t.next op r
    | _, _, _, t           => if t = .idle then some .idle else none

section Obeys

theorem obeys_post (sink : SinkId) (id : String) (item : CreatedItem) :
    posting.Obeys (post sink id item) .idle := by
  intro seen
  cases seen
  case error e => exact ⟨.idle, rfl, rfl⟩
  case ok seen =>
    cases seen
    case true => exact ⟨.idle, rfl, rfl⟩
    case false =>
      refine ⟨.looked sink id, rfl, fun created => ?_⟩
      cases created
      case error e => exact ⟨.idle, if_pos rfl, rfl⟩
      case ok =>
        refine ⟨.adding sink id, if_pos rfl, fun added => ?_⟩
        cases added
        case ok | error => exact ⟨.idle, if_pos rfl, rfl⟩

theorem obeys_calls {β : Type} (op : Port β) : posting.Obeys (calls op) posting.rest := by
  cases op
  case emit | surfaceAttention => exact obeys_post _ _ _
  all_goals
    rw [calls_of_not_isSink rfl]
    exact .idle (.perform fun _ => rfl)

theorem obeys_service {α : Type} (p : ServiceM α) : posting.Obeys (service p) .idle :=
  (Protocol.Obeys.refine obeys_calls p).bind fun _ => rfl

theorem Job.obeys {py : PyStd} {p : SiteM Unit} (h : Job py p) : posting.Obeys p .idle := by
  cases h
  case robot n => exact (Protocol.Obeys.lift (fun _ _ => rfl) _).bind fun _ => rfl
  case people n =>
    induction n
    case zero      => rfl
    case succ n ih => exact Protocol.Obeys.bind (.idle (.perform fun _ => rfl)) fun _ => ih
  all_goals exact obeys_service _

end Obeys

section Next

variable {β : Type} {t t' : Phase} {sink : SinkId} {id : String}

-- What is no call to an adapter is made at rest.
theorem next_of_aside {op : SiteCall β} {r : Except PyExc β} (hop : ∀ op', op ≠ .adapter op')
    (h : t' ∈ posting.next β op r t) : t = .idle ∧ t' = .idle := by
  rcases op with _ | op | _ | _
  case adapter => exact absurd rfl (hop op)
  all_goals
    simp only [posting, Option.mem_def] at h
    simp_all [eq_comm]

theorem next_isSeen {r : Except PyExc Bool}
    (h : t' ∈ posting.next Bool (.adapter (.isSeen sink id)) r t) :
    t = .idle ∧ (t' = .idle ∨ r = .ok false ∧ t' = .looked sink id) := by
  simp only [posting, Phase.next, Option.mem_def] at h
  rcases r with _ | _ | _ <;> simp_all [eq_comm]

theorem next_create {item : CreatedItem} {r : Except PyExc Unit}
    (h : t' ∈ posting.next Unit (.adapter (.create sink id item)) r t) :
    t = .looked sink id ∧
      (r = .ok () ∧ t' = .adding sink id ∨ (∃ e, r = .error e) ∧ t' = .idle) := by
  simp only [posting, Phase.next, Option.mem_def] at h
  rcases r with _ | _ <;> simp_all [eq_comm]

theorem next_remember {r : Except PyExc Unit}
    (h : t' ∈ posting.next Unit (.adapter (.remember sink id)) r t) :
    t = .adding sink id ∧ t' = .idle := by
  simp only [posting, Phase.next, Option.mem_def] at h
  simp_all [eq_comm]

-- Who is within a post stands before the step that comes next in it.
theorem cases_of_obeys {q : SiteM Unit} (h : posting.Obeys q t) : t = .idle ∨
    (∃ sink id item k, t = .looked sink id ∧ q = .call (.adapter (.create sink id item)) k) ∨
    ∃ sink id k, t = .adding sink id ∧ q = .call (.adapter (.remember sink id)) k := by
  cases q
  case pure | throw => exact .inl h
  case call op k =>
    obtain ⟨t', ht', -⟩ := h (.error ⟨.sinkError, ""⟩)
    rcases op with ⟨_, _⟩ | op | _ | _
    case adapter =>
      cases op
      case isSeen   => exact .inl (next_isSeen ht').1
      case create   => exact .inr (.inl ⟨_, _, _, k, (next_create ht').1, rfl⟩)
      case remember => exact .inr (.inr ⟨_, _, k, (next_remember ht').1, rfl⟩)
    all_goals exact .inl (next_of_aside (by simp) ht').1

end Next

-- ### How many items an adapter creates

-- What the logs say of an adapter and a receiving_id while `n` posts have created their item and
-- not yet added to the set.
def Tallies (sink : SinkId) (id : String) (n : Nat) (s : Shop) : Prop :=
  s.posts.count (sink, id) = (if id ∈ s.world.seen sink then 1 else 0) +
    s.lost.count (sink, id) + s.repeats.count (sink, id) + n

section Tallies

variable {sink sink' : SinkId} {id id' : String} {n : Nat} {s s' : Shop} {item : CreatedItem}

theorem count_append_one {l : List (SinkId × String)} : (l ++ [(sink', id')]).count (sink, id) =
    l.count (sink, id) + if (sink', id') = (sink, id) then 1 else 0 := by
  simp [List.count_append, List.count_singleton]

theorem Tallies.create (h : Tallies sink id n s) : Tallies sink id
    (n + if (sink', id') = (sink, id) then 1 else 0) (s.create sink' id' item) := by
  unfold Tallies at h
  show (s.posts ++ [(sink', id')]).count (sink, id) = (if id ∈ s.world.seen sink then 1 else 0) +
    s.lost.count (sink, id) + s.repeats.count (sink, id) + _
  rw [count_append_one]
  omega

theorem Tallies.loseResponse (h : Tallies sink id n s) : Tallies sink id n
    { s.create sink' id' item with lost := s.lost ++ [(sink', id')] } := by
  unfold Tallies at h
  show (s.posts ++ [(sink', id')]).count (sink, id) = (if id ∈ s.world.seen sink then 1 else 0) +
    (s.lost ++ [(sink', id')]).count (sink, id) + s.repeats.count (sink, id) + n
  rw [count_append_one, count_append_one]
  omega

-- A request that is answered well is a post that has to add to the set. One that is not is lost, or
-- has not been carried out.
theorem Tallies.creates {x : Except PyExc Unit} {created : Option CreatedItem}
    (h : Tallies sink id n s) (hs : s.Creates sink' id' item x created s') :
    (x = .ok () → Tallies sink id (n + if (sink', id') = (sink, id) then 1 else 0) s') ∧
    ((∃ e, x = .error e) → Tallies sink id n s') := by
  cases hs
  case created => exact ⟨fun _ => h.create, nofun⟩
  case failed  => exact ⟨nofun, fun _ => h⟩
  case lost    => exact ⟨nofun, fun _ => h.loseResponse⟩

theorem Tallies.remember
    (h : Tallies sink id (n + if (sink', id') = (sink, id) then 1 else 0) s) :
    Tallies sink id n (s.remember sink' id') := by
  have hknown := @Shop.mem_seen_remember s sink' sink id' id
  unfold Tallies at h ⊢
  rw [Shop.remember_posts, Shop.remember_lost, h]
  by_cases hs : id' ∈ s.world.seen sink'
  case pos =>
    have hmem : id ∈ (s.remember sink' id').world.seen sink ↔ id ∈ s.world.seen sink := by grind
    have hrepeats : (s.remember sink' id').repeats = s.repeats ++ [(sink', id')] := by
      rw [Shop.remember, if_pos hs]
    rw [hrepeats, count_append_one]
    simp only [hmem]
    omega
  case neg =>
    have hrepeats : (s.remember sink' id').repeats = s.repeats := by
      rw [Shop.remember, if_neg hs]
    rw [hrepeats]
    simp only [hknown, Prod.mk.injEq]
    grind

-- Nothing was posted, and no adapter knows more than before.
structure SamePosts (s s' : Shop) : Prop where
  posts   : s'.posts = s.posts
  lost    : s'.lost = s.lost
  repeats : s'.repeats = s.repeats
  seen    : s'.world.seen = s.world.seen

theorem Tallies.of_same (h : Tallies sink id n s) (hs : SamePosts s s') : Tallies sink id n s' := by
  unfold Tallies
  rwa [hs.posts, hs.lost, hs.repeats, hs.seen]

end Tallies

-- What is no call to an adapter posts nothing.
theorem samePosts_of_aside {s s' : Site} {β : Type} {op : SiteCall β} {r : Except PyExc β}
    (haside : ∀ op', op ≠ .adapter op') (h : Answers β op s r s') : SamePosts s.shop s'.shop := by
  have hsame (he : s'.shop = s.shop) : SamePosts s.shop s'.shop := he ▸ ⟨rfl, rfl, rfl, rfl⟩
  have hedited (h : Edited s s') : SamePosts s.shop s'.shop :=
    have ⟨_, he, _⟩ := h
    hsame (he ▸ rfl)
  rcases op with ⟨op, hop⟩ | op | op | op
  case adapter => exact absurd rfl (haside op)
  case people  => cases op; exact hedited h
  case repository =>
    obtain ⟨world, he, -, hs⟩ := h.1.of_not_isSink hop
    rw [hs]
    exact ⟨rfl, rfl, rfl, (sinkSide_of_env hop he).1⟩
  case robot =>
    cases op
    case sleep => exact hedited h
    all_goals exact hsame h.2

section Counted

variable {ι : Type} {sink sink' : SinkId} {id id' : String} {s s' : Site}
variable {p : ι → Phase} {i : ι} {t : Phase}

-- The logs account for all posts, those included that have still to add to the set.
structure Counted (sink : SinkId) (id : String) (s : Site) (p : ι → Phase) : Prop where
  finite  : {i | p i = .adding sink id}.Finite
  tallies : Tallies sink id {i | p i = .adding sink id}.ncard s.shop

variable [DecidableEq ι]

-- A post that has created its item is one more that has to add to the set.
theorem ncard_created (hf : {i | p i = .adding sink id}.Finite) (h : p i = .looked sink' id') :
    {j | Function.update p i (.adding sink' id') j = .adding sink id}.Finite ∧
      {j | Function.update p i (.adding sink' id') j = .adding sink id}.ncard =
        {j | p j = .adding sink id}.ncard + if (sink', id') = (sink, id) then 1 else 0 := by
  have hne : p i ≠ .adding sink id := by simp [h]
  by_cases he : (sink', id') = (sink, id)
  case pos =>
    obtain ⟨rfl, rfl⟩ := Prod.mk.inj he
    simpa using Protocol.ncard_enter hf hne
  case neg =>
    have hne' : Phase.adding sink' id' ≠ .adding sink id := by simpa using he
    rw [Protocol.ncard_aside hne hne', if_neg he]
    exact ⟨hf, rfl⟩

-- A post that has added to the set is one less.
theorem ncard_added (hf : {i | p i = .adding sink id}.Finite) (h : p i = .adding sink' id') :
    {j | Function.update p i .idle j = .adding sink id}.Finite ∧
      {j | p j = .adding sink id}.ncard = {j | Function.update p i .idle j = .adding sink id}.ncard +
        if (sink', id') = (sink, id) then 1 else 0 := by
  have hidle : Phase.idle ≠ .adding sink id := nofun
  by_cases he : (sink', id') = (sink, id)
  case pos =>
    obtain ⟨rfl, rfl⟩ := Prod.mk.inj he
    have ⟨hf, hn⟩ := Protocol.ncard_leave hf h hidle
    exact ⟨hf, by rw [if_pos rfl, hn]⟩
  case neg =>
    have hne : p i ≠ .adding sink id := by simpa [h] using he
    rw [Protocol.ncard_aside hne hidle, if_neg he]
    exact ⟨hf, rfl⟩

theorem Counted.step {β : Type} {op : SiteCall β} {r : Except PyExc β} (hc : Counted sink id s p)
    (h : Answers β op s r s') (ht : t ∈ posting.next β op r (p i)) :
    Counted sink id s' (Function.update p i t) := by
  by_cases haside : ∀ op', op ≠ .adapter op'
  case pos =>
    have ⟨hp, ht⟩ := next_of_aside haside ht
    rw [ht, ← hp, Function.update_eq_self]
    exact ⟨hc.finite, hc.tallies.of_same (samePosts_of_aside haside h)⟩
  case neg =>
    obtain ⟨op, rfl⟩ := by simpa using haside
    obtain ⟨created, board, hadapts, -⟩ := h
    -- Nobody gets into the last phase or out of it.
    have hstay (hp : p i ≠ .adding sink id) (ht : t ≠ .adding sink id)
        (hs : Tallies sink id {j | p j = .adding sink id}.ncard s'.shop) :
        Counted sink id s' (Function.update p i t) := by
      have he := Protocol.ncard_aside hp ht
      exact ⟨he ▸ hc.finite, he ▸ hs⟩
    cases op
    case isSeen sink' id' =>
      obtain ⟨-, -, hs⟩ := hadapts
      have ⟨hp, ht⟩ := next_isSeen ht
      have htallies := hs ▸ hc.tallies
      rcases ht with rfl | ⟨-, rfl⟩
      · exact hstay (by simp [hp]) nofun htallies
      · exact hstay (by simp [hp]) nofun htallies
    case create sink' id' item =>
      have ⟨hp, ht⟩ := next_create ht
      have ⟨hok, herr⟩ := hc.tallies.creates hadapts
      rcases ht with ⟨hr, rfl⟩ | ⟨hr, rfl⟩
      · have ⟨hf, hn⟩ := ncard_created hc.finite hp
        exact ⟨hf, hn ▸ hok hr⟩
      · exact hstay (by simp [hp]) nofun (herr hr)
    case remember sink' id' =>
      obtain ⟨-, -, hs⟩ := hadapts
      obtain ⟨hp, rfl⟩ := next_remember ht
      have ⟨hf, hn⟩ := ncard_added hc.finite hp
      exact ⟨hf, hs ▸ (hn ▸ hc.tallies).remember⟩

end Counted

-- ### Posts that do not overlap

-- A process that adds to the set of an adapter next, and one that has looked into the set and not
-- yet added to it.
def Adds (sink : SinkId) (id : String) (q : SiteM Unit) : Prop :=
  ∃ k, q = .call (.adapter (.remember sink id)) k

def IsPosting (sink : SinkId) (id : String) (q : SiteM Unit) : Prop :=
  (∃ item k, q = .call (.adapter (.create sink id item)) k) ∨ Adds sink id q

-- At most one process at a time posts for the receiving_id with the adapter.
def Apart {ι : Type} (sink : SinkId) (id : String) (P : ι → SiteM Unit) : Prop :=
  ∀ i j, IsPosting sink id (P i) → IsPosting sink id (P j) → i = j

def Phase.InPost (sink : SinkId) (id : String) (t : Phase) : Prop :=
  t = .looked sink id ∨ t = .adding sink id

section Alone

variable {ι : Type} {sink sink' : SinkId} {id id' : String} {s s' : Site} {p : ι → Phase} {i : ι}
variable {t : Phase}

theorem adding_iff {q : SiteM Unit} (h : posting.Obeys q t) :
    t = .adding sink id ↔ Adds sink id q := by
  constructor
  case mp =>
    rintro rfl
    rcases cases_of_obeys h with ht | ⟨_, _, _, _, ht, -⟩ | ⟨_, _, k, ht, rfl⟩
    case inr.inr => cases ht; exact ⟨k, rfl⟩
    all_goals cases ht
  case mpr =>
    rintro ⟨k, rfl⟩
    have ⟨t', ht', _⟩ := h (.ok ())
    exact (next_remember ht').1

theorem isPosting_of_obeys {q : SiteM Unit} (h : posting.Obeys q t) (ht : t.InPost sink id) :
    IsPosting sink id q := by
  rcases ht with rfl | rfl
  case inr => exact .inr ((adding_iff h).mp rfl)
  case inl =>
    rcases cases_of_obeys h with ht | ⟨_, _, item, k, ht, rfl⟩ | ⟨_, _, _, ht, -⟩
    case inr.inl => cases ht; exact .inl ⟨item, k, rfl⟩
    all_goals cases ht

-- Who posts does not find the receiving_id in the set in the end.
structure Alone (sink : SinkId) (id : String) (s : Site) (p : ι → Phase) : Prop
    extends Counted sink id s p where
  apart   : ∀ i j, (p i).InPost sink id → (p j).InPost sink id → i = j
  unknown : ∀ i, (p i).InPost sink id → id ∉ s.shop.world.seen sink
  repeats : s.shop.repeats.count (sink, id) = 0

theorem Alone.count_le (h : Alone sink id s p) :
    s.shop.posts.count (sink, id) ≤ s.shop.lost.count (sink, id) + 1 := by
  have htallies := h.tallies
  have hle : {i | p i = .adding sink id}.ncard ≤ 1 :=
    (Set.ncard_le_one h.finite).mpr fun i hi j hj => h.apart i j (.inr hi) (.inr hj)
  rw [Tallies, h.repeats] at htallies
  split at htallies
  case isFalse => omega
  case isTrue hs =>
    have hnone : {i | p i = .adding sink id} = ∅ :=
      Set.eq_empty_iff_forall_notMem.mpr fun i hi => h.unknown i (.inr hi) hs
    rw [hnone, Set.ncard_empty] at htallies
    omega

theorem Alone.repeats_of_remember (ha : Alone sink id s p) (hp : p i = .adding sink' id') :
    (s.shop.remember sink' id').repeats.count (sink, id) = 0 := by
  unfold Shop.remember
  split
  case isFalse => exact ha.repeats
  case isTrue hseen =>
    have hne : (sink', id') ≠ (sink, id) := by
      rintro ⟨rfl, rfl⟩
      exact ha.unknown i (.inr hp) hseen
    rw [count_append_one, ha.repeats, if_neg hne]

variable [DecidableEq ι]

-- What the others may rely on after a turn that adds nothing to the sets.
theorem Alone.unknown_of_same (ha : Alone sink id s p)
    (hseen : s'.shop.world.seen = s.shop.world.seen)
    (hi : t.InPost sink id → id ∉ s.shop.world.seen sink) (j : ι)
    (hj : (Function.update p i t j).InPost sink id) : id ∉ s'.shop.world.seen sink := by
  rw [hseen]
  by_cases he : j = i
  case pos => exact hi (by simpa [he] using hj)
  case neg => exact ha.unknown j (by simpa [he] using hj)

-- Who adds to the set is the only one to post, and finds the receiving_id not yet there.
theorem Alone.unknown_of_remember (ha : Alone sink id s p) (hp : p i = .adding sink' id')
    (hs : s'.shop = s.shop.remember sink' id') (j : ι)
    (hj : (Function.update p i .idle j).InPost sink id) : id ∉ s'.shop.world.seen sink := by
  have hne : j ≠ i := by
    rintro rfl
    simp [Phase.InPost] at hj
  rw [Function.update_of_ne hne] at hj
  rw [hs, Shop.mem_seen_remember]
  rintro (hseen | ⟨rfl, rfl⟩)
  · exact ha.unknown j hj hseen
  · exact hne (ha.apart j i hj (.inr hp))

theorem Alone.step {β : Type} {op : SiteCall β} {r : Except PyExc β} {P : ι → SiteM Unit}
    (ha : Alone sink id s p) (h : Answers β op s r s') (ht : t ∈ posting.next β op r (p i))
    (hG : Apart sink id P) (hP : ∀ j, posting.Obeys (P j) (Function.update p i t j)) :
    Alone sink id s' (Function.update p i t) := by
  have hapart (j k : ι) (hj : (Function.update p i t j).InPost sink id)
      (hk : (Function.update p i t k).InPost sink id) : j = k :=
    hG j k (isPosting_of_obeys (hP j) hj) (isPosting_of_obeys (hP k) hk)
  have hcounted := ha.toCounted.step h ht
  by_cases haside : ∀ op', op ≠ .adapter op'
  case pos =>
    have hsame := samePosts_of_aside haside h
    have ⟨hp, ht⟩ := next_of_aside haside ht
    refine ⟨hcounted, hapart, ha.unknown_of_same hsame.seen ?_, hsame.repeats ▸ ha.repeats⟩
    simp [ht, Phase.InPost]
  case neg =>
    obtain ⟨op, rfl⟩ := by simpa using haside
    obtain ⟨created, board, hadapts, -⟩ := h
    cases op
    case isSeen sink' id' =>
      obtain ⟨hr, -, hs⟩ := hadapts
      have ⟨hp, ht⟩ := next_isSeen ht
      refine ⟨hcounted, hapart, ha.unknown_of_same (by rw [hs]) fun hin => ?_, hs ▸ ha.repeats⟩
      rcases ht with rfl | ⟨hr', rfl⟩
      · simp [Phase.InPost] at hin
      · obtain ⟨rfl, rfl⟩ : sink' = sink ∧ id' = id := by simpa [Phase.InPost] using hin
        simpa [hr] using hr'
    case create sink' id' item =>
      have ⟨hp, ht⟩ := next_create ht
      have hrepeats : s'.shop.repeats = s.shop.repeats := hadapts.repeats_eq
      refine ⟨hcounted, hapart, ha.unknown_of_same hadapts.seen_eq fun hin => ?_,
        hrepeats ▸ ha.repeats⟩
      rcases ht with ⟨-, rfl⟩ | ⟨-, rfl⟩
      · obtain ⟨rfl, rfl⟩ : sink' = sink ∧ id' = id := by simpa [Phase.InPost] using hin
        exact ha.unknown i (.inl hp)
      · simp [Phase.InPost] at hin
    case remember sink' id' =>
      obtain ⟨-, -, hs⟩ := hadapts
      obtain ⟨hp, rfl⟩ := next_remember ht
      exact ⟨hcounted, hapart, ha.unknown_of_remember hp hs, hs ▸ ha.repeats_of_remember hp⟩

end Alone

-- ### Runs of all processes

section Runs

variable {py : PyStd} {ι : Type} {P : ι → SiteM Unit} {s : Site}

theorem IsFresh.alone (hs : s.IsFresh) (sink : SinkId) (id : String) :
    Alone sink id s fun _ : ι => .idle where
  finite    := by simp
  tallies   := by simp [Tallies, hs.posts, hs.lost, hs.repeats, hs.seen]
  apart i j := by simp [Phase.InPost]
  unknown i := by simp [Phase.InPost]
  repeats   := by simp [hs.repeats]

-- However the calls interleave and whichever of them fail: the items that an adapter has created for
-- a receiving_id are accounted for by the set, by the responses that were lost, by the posts that
-- overlapped with another one, and by those that have still to add to the set. Where posts do not
-- overlap, there is no second item unless a response was lost.
theorem posts_accounted [DecidableEq ι] (hs : s.IsFresh) (hP : ∀ i, Job py (P i)) (sink : SinkId)
    (id : String) :
    (∀ s' Q, Pool.Steps Answers (s, P) (s', Q) →
      {i | Adds sink id (Q i)}.Finite ∧
      s'.shop.posts.count (sink, id) = (if id ∈ s'.shop.world.seen sink then 1 else 0) +
        s'.shop.lost.count (sink, id) + s'.shop.repeats.count (sink, id) +
        {i | Adds sink id (Q i)}.ncard) ∧
    (∀ s' Q, Protocol.Within Answers (Apart sink id) (s, P) (s', Q) →
      s'.shop.posts.count (sink, id) ≤ s'.shop.lost.count (sink, id) + 1) := by
  have halone := hs.alone (ι := ι) sink id
  constructor
  case left =>
    intro s' Q h
    have ⟨p, hQ, hc⟩ := Protocol.Obeys.within (J := fun s p => Counted sink id s p)
      (fun he ht _ _ hc => hc.step he ht)
      (Protocol.within_of_steps (G := fun _ => True) (fun _ => trivial) h)
      (fun i => (hP i).obeys) halone.toCounted
    have hadds : {i | Adds sink id (Q i)} = {i | p i = .adding sink id} :=
      Set.ext fun i => (adding_iff (hQ i)).symm
    exact hadds ▸ ⟨hc.finite, hc.tallies⟩
  case right =>
    intro s' Q h
    have ⟨p, _, ha⟩ := Protocol.Obeys.within (J := fun s p => Alone sink id s p)
      (fun he ht hG hP ha => ha.step he ht hG hP) h (fun i => (hP i).obeys) halone
    exact ha.count_le

end Runs

-- ### Posts that overlap

-- A barcode that matches nothing is scanned twice, and both scans post with one adapter.
def unmatched : Scan .ascii := ⟨"Z", "P", "", 0, .sample⟩

def overlapping (_ : Bool) : SiteM Unit :=
  service unmatched.program

def inTurns : List Bool :=
  (List.replicate 7 [true, false]).flatten

-- Both of them look into the set before one of them adds to it. No response is lost, and still there
-- are two items. A scan that is alone creates one.
theorem posts_accounted_sample :
    (∃ (s' : Site) (Q : Bool → SiteM Unit),
      s'.shop.posts = [(0, "sha256:PZ"), (0, "sha256:PZ")] ∧ s'.shop.lost = [] ∧
      s'.shop.posts.count (0, "sha256:PZ") =
        (if "sha256:PZ" ∈ s'.shop.world.seen 0 then 1 else 0) +
          s'.shop.lost.count (0, "sha256:PZ") + s'.shop.repeats.count (0, "sha256:PZ") +
          {i | Adds 0 "sha256:PZ" (Q i)}.ncard) ∧
    ∃ s' : Site, s'.shop.posts = [(0, "sha256:PZ")] ∧
      s'.shop.posts.count (0, "sha256:PZ") ≤ s'.shop.lost.count (0, "sha256:PZ") + 1 := by
  constructor
  case left =>
    have hplayed : (Pool.play (play fun _ => false) (fun _ _ _ => true) inTurns
        (fresh, overlapping)).map (fun c => (c.1.shop.posts, c.1.shop.lost)) =
        some ([(0, "sha256:PZ"), (0, "sha256:PZ")], []) := by
      decide +kernel
    obtain ⟨⟨s', Q⟩, h, hlogs⟩ := Option.map_eq_some_iff.mp hplayed
    have ⟨hposts, hlost⟩ := Prod.mk.inj hlogs
    have hsteps := (Pool.steps_play answers_play h).mono And.left
    have haccounted := posts_accounted (P := overlapping) isFresh_fresh (fun _ => .scan _) 0
      "sha256:PZ"
    exact ⟨s', Q, hposts, hlost, (haccounted.1 s' Q hsteps).2⟩
  case right =>
    have hplayed : (Pool.play (play fun _ => false) (fun _ _ _ => true) (List.replicate 7 ())
        (fresh, fun _ => service unmatched.program)).map (fun c => c.1.shop.posts) =
        some [(0, "sha256:PZ")] := by
      decide +kernel
    obtain ⟨⟨s', Q⟩, h, hposts⟩ := Option.map_eq_some_iff.mp hplayed
    have hsteps := (Pool.steps_play answers_play h).mono And.left
    have hwithin := Protocol.within_of_steps (G := Apart 0 "sha256:PZ") (fun _ _ _ _ _ => rfl) hsteps
    have haccounted := posts_accounted (P := fun _ : Unit => service unmatched.program)
      isFresh_fresh (fun _ => .scan _) 0 "sha256:PZ"
    exact ⟨s', hposts, haccounted.2 s' Q hwithin⟩

end Site
end ReceivingApp
