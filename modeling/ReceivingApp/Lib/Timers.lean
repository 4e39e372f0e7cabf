import Mathlib.Data.List.Nodup

namespace Interaction

-- The timers of an event loop that have been armed and have neither gone off nor been cancelled,
-- each under the handle it was armed with. No handle is given out twice.
structure Timers (α : Type) where
  waiting : List (Nat × α)
  next    : Nat
  fresh   : ∀ t ∈ waiting, t.1 < next
  nodup   : (waiting.map Prod.fst).Nodup

namespace Timers

variable {α : Type} {ts : Timers α} {a b : α} {id : Nat} {h : Option Nat}

def empty : Timers α :=
  ⟨[], 0, nofun, .nil⟩

-- The handle of the new timer is `ts.next`.
def arm (a : α) (ts : Timers α) : Timers α where
  waiting := ts.waiting ++ [(ts.next, a)]
  next    := ts.next + 1
  fresh t ht := by
    rcases List.mem_append.mp ht with ht | ht
    · exact Nat.lt_succ_of_lt (ts.fresh t ht)
    · exact List.mem_singleton.mp ht ▸ Nat.lt_succ_self _
  nodup := by
    rw [List.map_append, List.map_singleton]
    refine List.nodup_append.mpr ⟨ts.nodup, List.nodup_singleton _, ?_⟩
    intro i hi j hj
    obtain ⟨t, ht, rfl⟩ := List.mem_map.mp hi
    exact List.mem_singleton.mp hj ▸ Nat.ne_of_lt (ts.fresh t ht)

-- A handle that no timer has any more is ignored. A timer that goes off is taken out in this way.
def cancel (id : Nat) (ts : Timers α) : Timers α where
  waiting := ts.waiting.filter (·.1 ≠ id)
  next    := ts.next
  fresh t ht := ts.fresh t (List.mem_of_mem_filter ht)
  nodup := (List.filter_sublist.map _).nodup ts.nodup

def find? (id : Nat) (ts : Timers α) : Option α :=
  (ts.waiting.find? (·.1 = id)).map (·.2)

theorem mem_of_find? (hf : ts.find? id = some a) : (id, a) ∈ ts.waiting := by
  obtain ⟨⟨i, a⟩, hw, rfl⟩ := Option.map_eq_some_iff.mp hf
  obtain rfl : i = id := by simpa using List.find?_some hw
  exact List.mem_of_find?_eq_some hw

-- ### Timers under one handle

-- No other timer is waiting than the one with the given handle.
def Only (ts : Timers α) (h : Option Nat) : Prop :=
  ∀ t ∈ ts.waiting, h = some t.1

theorem only_empty : (empty : Timers α).Only h :=
  nofun

theorem only_none_iff : ts.Only none ↔ ts.waiting = [] := by
  rw [Only, List.eq_nil_iff_forall_not_mem]
  exact forall₂_congr fun _ _ => by simp

theorem Only.cancel (ho : ts.Only h) : (ts.cancel id).Only h :=
  fun t ht => ho t (List.mem_of_mem_filter ht)

-- The one that may be waiting is cancelled.
theorem Only.cancel_self (ho : ts.Only (some id)) : (ts.cancel id).waiting = [] := by
  refine List.filter_eq_nil_iff.mpr fun t ht => ?_
  simp [Option.some.inj (ho t ht)]

theorem only_arm (hw : ts.waiting = []) : (ts.arm a).Only (some ts.next) := by
  intro t ht
  simp only [arm, hw, List.nil_append, List.mem_singleton] at ht
  rw [ht]

theorem waiting_arm (hw : ts.waiting = []) : (ts.arm a).waiting = [(ts.next, a)] := by
  simp [arm, hw]

-- There is at most one.
theorem Only.eq_singleton (ho : ts.Only h) (hm : (id, a) ∈ ts.waiting) :
    ts.waiting = [(id, a)] ∧ h = some id := by
  have hh := ho _ hm
  refine ⟨?_, hh⟩
  have hid (t : Nat × α) (ht : t ∈ ts.waiting) : t.1 = id :=
    Option.some.inj ((ho t ht).symm.trans hh)
  have hn := ts.nodup
  generalize hw : ts.waiting = w at hm hid hn
  match w, hm, hid, hn with
  | [t], hm, _, _ => rw [List.mem_singleton.mp hm]
  | t :: t' :: w, _, hid, hn =>
    have he : t.1 = t'.1 := (hid t (by simp)).trans (hid t' (by simp)).symm
    exact absurd hn (by simp [he])

theorem Only.length_le (ho : ts.Only h) : ts.waiting.length ≤ 1 := by
  cases hw : ts.waiting
  case nil => exact Nat.zero_le _
  case cons t w =>
    have hm : (t.1, t.2) ∈ ts.waiting := hw ▸ List.mem_cons_self
    rw [← hw, (ho.eq_singleton hm).1]
    exact Nat.le_refl 1

end Timers
end Interaction
