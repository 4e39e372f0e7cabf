import Mathlib.Data.List.Sort

-- Work that is done item by item in the order of its numbers, on a state that tells how far it has
-- come. Whoever takes the work up again does what lies beyond that mark.
namespace Checkpoint

variable {α κ σ : Type} [LinearOrder κ] {key : α → κ} {P Q : α → Prop} {a b : α} {l l' : List α}

-- The list holds what has the property, each once and in the order of the numbers.
structure Lists (key : α → κ) (P : α → Prop) (l : List α) : Prop where
  ascending : l.Pairwise (fun a b => key a < key b)
  mem_iff   : ∀ a, a ∈ l ↔ P a

namespace Lists

theorem congr (h : Lists key P l) (hpq : ∀ a, P a ↔ Q a) : Lists key Q l where
  ascending := h.ascending
  mem_iff a := (h.mem_iff a).trans (hpq a)

theorem unique (h : Lists key P l) (h' : Lists key P l') : l = l' :=
  have : Std.Irrefl (fun a b => key a < key b) := ⟨fun a => lt_irrefl (key a)⟩
  have : Std.Antisymm (fun a b => key a < key b) := ⟨fun _ _ h h' => absurd h (lt_asymm h')⟩
  h.ascending.eq_of_mem_iff h'.ascending fun a => (h.mem_iff a).trans (h'.mem_iff a).symm

theorem head (h : Lists key P (a :: l)) : P a :=
  (h.mem_iff a).mp List.mem_cons_self

theorem tail (h : Lists key P (a :: l)) : Lists key (fun b => P b ∧ key a < key b) l where
  ascending := h.ascending.of_cons
  mem_iff b := by
    constructor
    case mp =>
      intro hl
      exact ⟨(h.mem_iff b).mp (List.mem_cons_of_mem a hl), List.rel_of_pairwise_cons h.ascending hl⟩
    case mpr =>
      intro ⟨hp, hlt⟩
      rcases List.mem_cons.mp ((h.mem_iff b).mpr hp) with rfl | hl
      · exact absurd hlt (lt_irrefl _)
      · exact hl

end Lists

-- ### Progress

variable {mark : σ → κ} {commit : α → σ → Option σ} {start now now' next : σ} {done done' : List α}

-- What has been done since the beginning are the items up to the mark.
structure Progress (key : α → κ) (P : α → Prop) (mark : σ → κ) (commit : α → σ → Option σ)
    (start now : σ) (done : List α) : Prop where
  lists  : Lists key (fun a => P a ∧ mark start < key a ∧ key a ≤ mark now) done
  le     : mark start ≤ mark now
  replay : done.foldlM (fun s a => commit a s) start = some now

-- The items beyond the mark.
abbrev Ahead (key : α → κ) (P : α → Prop) (mark : σ → κ) (now : σ) (a : α) : Prop :=
  P a ∧ mark now < key a

namespace Progress

theorem refl (s : σ) : Progress key P mark commit s s [] where
  lists := {
    ascending := .nil
    mem_iff a := by simp
  }
  le     := le_rfl
  replay := rfl

-- The next item is the one of the lowest number beyond the mark.
theorem step (hm : ∀ a s s', commit a s = some s' → mark s' = key a)
    (h : Progress key P mark commit start now done)
    (hl : Lists key (Ahead key P mark now) (a :: l)) (hc : commit a now = some next) :
    Progress key P mark commit start next (done ++ [a]) where
  lists := {
    ascending := by
      refine List.pairwise_append.mpr ⟨h.lists.ascending, List.pairwise_singleton _ a, ?_⟩
      intro b hb c hc
      rw [List.mem_singleton.mp hc]
      exact ((h.lists.mem_iff b).mp hb).2.2.trans_lt hl.head.2
    mem_iff b := by
      rw [List.mem_append, List.mem_singleton, h.lists.mem_iff, hm _ _ _ hc]
      constructor
      case mp =>
        rintro (⟨hp, hlt, hle⟩ | rfl)
        · exact ⟨hp, hlt, hle.trans hl.head.2.le⟩
        · exact ⟨hl.head.1, h.le.trans_lt hl.head.2, le_rfl⟩
      case mpr =>
        intro ⟨hp, hlt, hle⟩
        rcases le_or_gt (key b) (mark now) with hn | hn
        case inl => exact .inl ⟨hp, hlt, hn⟩
        case inr =>
          rcases List.mem_cons.mp ((hl.mem_iff b).mpr ⟨hp, hn⟩) with rfl | hb
          · exact .inr rfl
          · exact absurd hle (List.rel_of_pairwise_cons hl.ascending hb).not_ge
  }
  le := by
    rw [hm _ _ _ hc]
    exact h.le.trans hl.head.2.le
  replay := by
    rw [List.foldlM_append, h.replay]
    simpa using hc

theorem ahead (hm : ∀ a s s', commit a s = some s' → mark s' = key a)
    (hl : Lists key (Ahead key P mark now) (a :: l)) (hc : commit a now = some next) :
    Lists key (Ahead key P mark next) l := by
  refine hl.tail.congr fun b => ?_
  unfold Ahead
  rw [hm _ _ _ hc]
  exact ⟨fun h => ⟨h.1.1, h.2⟩, fun h => ⟨⟨h.1, hl.head.2.trans h.2⟩, h.2⟩⟩

-- The items done are all those beyond the first mark, if there are none beyond the last one.
theorem lists_ahead (h : Progress key P mark commit start now done)
    (hf : ∀ a, ¬Ahead key P mark now a) : Lists key (Ahead key P mark start) done := by
  refine h.lists.congr fun a => ?_
  exact ⟨fun h => ⟨h.1, h.2.1⟩, fun h => ⟨h.1, h.2, not_lt.mp fun hlt => hf a ⟨h.1, hlt⟩⟩⟩

-- Where the work is finished it does not matter how often it was taken up.
theorem unique (h : Progress key P mark commit start now done)
    (h' : Progress key P mark commit start now' done') (hf : ∀ a, ¬Ahead key P mark now a)
    (hf' : ∀ a, ¬Ahead key P mark now' a) : now = now' := by
  have he : done = done' := (h.lists_ahead hf).unique (h'.lists_ahead hf')
  subst he
  exact Option.some.inj (h.replay.symm.trans h'.replay)

-- The mark is at the highest number done.
theorem mark_eq (hm : ∀ a s s', commit a s = some s' → mark s' = key a)
    (h : Progress key P mark commit start now done) :
    mark now = (done.map key).foldl max (mark start) := by
  have hlt : ∀ a ∈ done, mark start < key a := fun a ha => ((h.lists.mem_iff a).mp ha).2.1
  have hp := h.lists.ascending
  have hr := h.replay
  clear h
  induction done generalizing start
  case nil =>
    cases hr
    rfl
  case cons a l ih =>
    obtain ⟨s, hs, hr⟩ := Option.bind_eq_some_iff.mp hr
    have ha : mark start < key a := hlt a List.mem_cons_self
    have hl : ∀ b ∈ l, mark s < key b := fun b hb =>
      hm _ _ _ hs ▸ List.rel_of_pairwise_cons hp hb
    rw [List.map_cons, List.foldl_cons, max_eq_right ha.le, ← hm _ _ _ hs]
    exact ih hl hp.of_cons hr

end Progress
end Checkpoint
