import Mathlib.Data.List.Basic

namespace Streak

variable {α : Type*} {p : α → Bool} {l : List α} {a : α}

-- How many members at the end of a list satisfy `p`, back to the last one that does not.
def trailing (p : α → Bool) (l : List α) : Nat :=
  (l.reverse.takeWhile p).length

-- Two members satisfy `p`, and so do all that are between them.
def Twice (p : α → Bool) (l : List α) : Prop :=
  ∃ l₁ a l₂ b l₃, l = l₁ ++ a :: (l₂ ++ b :: l₃) ∧ p a ∧ p b ∧ ∀ x ∈ l₂, p x

@[simp]
theorem trailing_nil : trailing p [] = 0 :=
  rfl

@[simp]
theorem trailing_concat : trailing p (l ++ [a]) = if p a then trailing p l + 1 else 0 := by
  by_cases h : p a <;> simp [trailing, h]

theorem trailing_pos_iff : 0 < trailing p l ↔ ∃ l' a, l = l' ++ [a] ∧ p a := by
  rcases List.eq_nil_or_concat' l with rfl | ⟨l', a, rfl⟩
  case inl => simp
  case inr =>
    rw [trailing_concat]
    constructor
    case mp =>
      intro h
      split at h
      case isTrue hp => exact ⟨l', a, rfl, hp⟩
      case isFalse   => exact absurd h (Nat.lt_irrefl 0)
    case mpr =>
      intro ⟨l'', a', he, hp⟩
      have ⟨_, ha⟩ := List.append_inj' he rfl
      rw [List.singleton_inj.mp ha, if_pos hp]
      exact Nat.succ_pos _

theorem not_twice_nil : ¬Twice p [] := by
  rintro ⟨l₁, a, l₂, b, l₃, h, _⟩
  simp at h

-- The second of two is either there before, or comes last and ends a streak.
theorem twice_concat_iff : Twice p (l ++ [a]) ↔ Twice p l ∨ (p a ∧ 0 < trailing p l) := by
  constructor
  case mp =>
    rintro ⟨l₁, x, l₂, y, l₃, h, hx, hy, hl⟩
    rcases List.eq_nil_or_concat' l₃ with rfl | ⟨l₃', z, rfl⟩
    case inl =>
      have h : l ++ [a] = (l₁ ++ x :: l₂) ++ [y] := by simpa using h
      have ⟨hl', ha⟩ := List.append_inj' h rfl
      refine .inr ⟨List.singleton_inj.mp ha ▸ hy, trailing_pos_iff.mpr ?_⟩
      rcases List.eq_nil_or_concat' l₂ with rfl | ⟨l₂', z, rfl⟩
      case inl => exact ⟨l₁, x, hl', hx⟩
      case inr => exact ⟨l₁ ++ x :: l₂', z, by simpa using hl', hl z (by simp)⟩
    case inr =>
      have h : l ++ [a] = (l₁ ++ x :: (l₂ ++ y :: l₃')) ++ [z] := by simpa using h
      exact .inl ⟨l₁, x, l₂, y, l₃', (List.append_inj' h rfl).1, hx, hy, hl⟩
  case mpr =>
    rintro (⟨l₁, x, l₂, y, l₃, rfl, hx, hy, hl⟩ | ⟨ha, hpos⟩)
    case inl => exact ⟨l₁, x, l₂, y, l₃ ++ [a], by simp, hx, hy, hl⟩
    case inr =>
      obtain ⟨l', x, rfl, hx⟩ := trailing_pos_iff.mp hpos
      exact ⟨l', x, [], a, [], by simp, hx, ha, by simp⟩

end Streak
