import ReceivingApp.Lib.Program

namespace Interaction.Program

variable {Op : Type → Type} {ε α β σ : Type} {E : Env Op ε σ} {s s' : σ}

-- A run of a program to its end, where it returns or raises.
def Ends (E : Env Op ε σ) (s : σ) (p : Program Op ε α) (s' : σ) (x : Except ε α) : Prop :=
  Steps E s p s' (ofExcept x)

theorem ofExcept_injective : Function.Injective (ofExcept : Except ε α → Program Op ε α) := by
  intro x y h
  cases x <;> cases y <;> cases h <;> rfl

theorem ends_ofExcept_iff {x y : Except ε α} :
    Ends E s (ofExcept y : Program Op ε α) s' x ↔ s' = s ∧ x = y := by
  cases y
  case ok a    => rw [Ends, ofExcept_ok, steps_pure_iff, ← ofExcept_ok, ofExcept_injective.eq_iff]
  case error e =>
    rw [Ends, ofExcept_error, steps_throw_iff, ← ofExcept_error, ofExcept_injective.eq_iff]

theorem ends_pure_iff {a : α} {x : Except ε α} :
    Ends E s (pure a : Program Op ε α) s' x ↔ s' = s ∧ x = .ok a :=
  ends_ofExcept_iff (y := .ok a)

theorem ends_throw_iff {e : ε} {x : Except ε α} :
    Ends E s (throw e : Program Op ε α) s' x ↔ s' = s ∧ x = .error e :=
  ends_ofExcept_iff (y := .error e)

theorem ends_call_iff {op : Op β} {k : Except ε β → Program Op ε α} {x : Except ε α} :
    Ends E s (call op k) s' x ↔ ∃ r s₁, E β op s r s₁ ∧ Ends E s₁ (k r) s' x := by
  constructor
  case mp =>
    rw [Ends]
    generalize hq : ofExcept x = q
    intro h
    cases h
    case refl            => cases x <;> simp [ofExcept] at hq
    case call s₁ r he hs => exact ⟨r, s₁, he, by rwa [Ends, hq]⟩
  case mpr => exact fun ⟨r, s₁, he, hs⟩ => .call he hs

theorem ends_perform_iff {op : Op α} {x : Except ε α} :
    Ends E s (perform op : Program Op ε α) s' x ↔ E α op s x s' := by
  rw [perform, ends_call_iff]
  constructor
  case mp =>
    rintro ⟨r, s₁, he, hs⟩
    obtain ⟨hs, hx⟩ := ends_ofExcept_iff.mp hs
    rwa [hs, hx]
  case mpr => exact fun he => ⟨x, s', he, ends_ofExcept_iff.mpr ⟨rfl, rfl⟩⟩

-- The second part runs from where the first one returns, and not at all where that raises.
theorem ends_bind_iff {p : Program Op ε α} {f : α → Program Op ε β} {x : Except ε β} :
    Ends E s (p >>= f) s' x ↔
      (∃ a s₁, Ends E s p s₁ (.ok a) ∧ Ends E s₁ (f a) s' x) ∨
      ∃ e, Ends E s p s' (.error e) ∧ x = .error e := by
  induction p generalizing s
  case pure a =>
    simp only [pure_bind, ends_pure_iff, Except.ok.injEq, reduceCtorEq]
    grind
  case throw e =>
    simp only [throw_bind, ends_throw_iff, Except.error.injEq, reduceCtorEq]
    grind
  case call op k ih =>
    change Ends E s (call op fun r => k r >>= f) s' x ↔ _
    simp only [ends_call_iff, ih]
    grind

-- The handler runs from where the program raises.
theorem ends_tryCatch_iff {p : Program Op ε α} {f : ε → Program Op ε α} {x : Except ε α} :
    Ends E s (p.tryCatch f) s' x ↔
      (∃ a, Ends E s p s' (.ok a) ∧ x = .ok a) ∨
      ∃ e s₁, Ends E s p s₁ (.error e) ∧ Ends E s₁ (f e) s' x := by
  induction p generalizing s
  case pure a =>
    simp only [tryCatch, ends_pure_iff, Except.ok.injEq, reduceCtorEq]
    grind
  case throw e =>
    simp only [tryCatch, ends_throw_iff, Except.error.injEq, reduceCtorEq]
    grind
  case call op k ih =>
    simp only [tryCatch, ends_call_iff, ih]
    grind

-- ### Loops

-- The turns of a loop over a list, each of which returns.
inductive Turns (E : Env Op ε σ) (f : α → β → Program Op ε α) : List β → α → σ → α → σ → Prop
  | nil {a : α} {s : σ} : Turns E f [] a s a s
  | cons {b : β} {l : List β} {a a₁ a₂ : α} {s s₁ s₂ : σ} :
      Ends E s (f a b) s₁ (.ok a₁) → Turns E f l a₁ s₁ a₂ s₂ → Turns E f (b :: l) a s a₂ s₂

-- A loop whose turns never raise goes through the whole list.
theorem ends_foldlM_iff {f : α → β → Program Op ε α} {l : List β} {a : α} {x : Except ε α}
    (hf : ∀ {b a s s' e}, b ∈ l → ¬Ends E s (f a b) s' (.error e)) :
    Ends E s (l.foldlM f a) s' x ↔ ∃ a', Turns E f l a s a' s' ∧ x = .ok a' := by
  induction l generalizing a s
  case nil =>
    rw [List.foldlM_nil, pure_eq, ends_pure_iff]
    constructor
    case mp  => exact fun ⟨hs, hx⟩ => ⟨a, hs ▸ .nil, hx⟩
    case mpr => rintro ⟨_, ⟨⟩, hx⟩; exact ⟨rfl, hx⟩
  case cons b l ih =>
    have ih' {a s} := ih (a := a) (s := s) fun hb => hf (List.mem_cons_of_mem _ hb)
    rw [List.foldlM_cons, ends_bind_iff]
    constructor
    case mp =>
      intro h
      rcases h with ⟨a₁, s₁, h₁, h₂⟩ | ⟨e, h₁, _⟩
      case inl =>
        have ⟨a', ht, hx⟩ := ih'.mp h₂
        exact ⟨a', .cons h₁ ht, hx⟩
      case inr => exact absurd h₁ (hf List.mem_cons_self)
    case mpr =>
      rintro ⟨a', ⟨⟩, hx⟩
      case cons a₁ s₁ h₁ ht => exact .inl ⟨a₁, s₁, h₁, ih'.mpr ⟨a', ht, hx⟩⟩

end Interaction.Program
