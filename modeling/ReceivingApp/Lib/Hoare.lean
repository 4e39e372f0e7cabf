import ReceivingApp.Lib.Program

namespace Interaction.Program

variable {Op : Type → Type} {ε α β σ : Type} {E : Env Op ε σ} {I : σ → Prop}
variable {Q Q' : α → σ → Prop} {X X' : ε → σ → Prop} {s s' : σ}

-- What has to hold before a program so that every run of it keeps `I` in all states it passes
-- through, holds `Q` where it returns and `X` where it raises.
def wp (E : Env Op ε σ) (I : σ → Prop) (p : Program Op ε α) (Q : α → σ → Prop) (X : ε → σ → Prop)
    (s : σ) : Prop :=
  match p with
  | pure a    => I s ∧ Q a s
  | throw e   => I s ∧ X e s
  | call op k => I s ∧ ∀ r s', E _ op s r s' → (k r).wp E I Q X s'

namespace wp

theorem now {p : Program Op ε α} (h : p.wp E I Q X s) : I s := by
  cases p
  case pure | throw | call => exact h.1

-- A step of the program keeps what remains of it correct.
theorem steps {p q : Program Op ε α} (h : p.wp E I Q X s) (hs : Steps E s p s' q) :
    q.wp E I Q X s' := by
  induction hs
  case refl          => exact h
  case call he _ ih => exact ih (h.2 _ _ he)

theorem invariant {p q : Program Op ε α} (h : p.wp E I Q X s) (hs : Steps E s p s' q) : I s' :=
  (h.steps hs).now

theorem returns {p : Program Op ε α} {a : α} (h : p.wp E I Q X s) (hs : Steps E s p s' (.pure a)) :
    Q a s' :=
  (h.steps hs).2

theorem raises {p : Program Op ε α} {e : ε} (h : p.wp E I Q X s) (hs : Steps E s p s' (.throw e)) :
    X e s' :=
  (h.steps hs).2

-- ### Rules

theorem mono {p : Program Op ε α} (h : p.wp E I Q X s) (hQ : ∀ a s, I s → Q a s → Q' a s)
    (hX : ∀ e s, I s → X e s → X' e s) : p.wp E I Q' X' s := by
  induction p generalizing s
  case pure a      => exact ⟨h.1, hQ a s h.1 h.2⟩
  case throw e     => exact ⟨h.1, hX e s h.1 h.2⟩
  case call op k ih => exact ⟨h.1, fun r s' he => ih r (h.2 r s' he)⟩

theorem perform {op : Op α} (h : I s) (hok : ∀ a s', E α op s (.ok a) s' → I s' ∧ Q a s')
    (herr : ∀ e s', E α op s (.error e) s' → I s' ∧ X e s') :
    (Program.perform op : Program Op ε α).wp E I Q X s := by
  refine ⟨h, fun r s' he => ?_⟩
  cases r
  case ok a    => exact hok a s' he
  case error e => exact herr e s' he

theorem bind {p : Program Op ε α} {f : α → Program Op ε β} {Q : β → σ → Prop}
    (h : p.wp E I (fun a s => (f a).wp E I Q X s) X s) : (p >>= f).wp E I Q X s := by
  induction p generalizing s
  case pure a       => exact h.2
  case throw e      => exact h
  case call op k ih => exact ⟨h.1, fun r s' he => ih r (h.2 r s' he)⟩

theorem tryCatch {p : Program Op ε α} {f : ε → Program Op ε α}
    (h : p.wp E I Q (fun e s => (f e).wp E I Q X s) s) : (p.tryCatch f).wp E I Q X s := by
  induction p generalizing s
  case pure a       => exact h
  case throw e      => exact h.2
  case call op k ih => exact ⟨h.1, fun r s' he => ih r (h.2 r s' he)⟩

-- The cleanup has to be correct after either outcome.
theorem withFinally {p : Program Op ε α} {cleanup : Program Op ε Unit}
    (h : p.wp E I (fun a => cleanup.wp E I (fun _ => Q a) X)
      (fun e => cleanup.wp E I (fun _ => X e) X) s) : (p.withFinally cleanup).wp E I Q X s := by
  induction p generalizing s
  case pure         => exact bind <| h.2.mono (fun _ _ hI h => ⟨hI, h⟩) (fun _ _ _ h => h)
  case throw        => exact bind <| h.2.mono (fun _ _ hI h => ⟨hI, h⟩) (fun _ _ _ h => h)
  case call op k ih => exact ⟨h.1, fun r s' he => ih r (h.2 r s' he)⟩

-- A loop that stands before the list `l` with `a` accumulated has `J l a` for its invariant.
theorem foldlM {f : α → β → Program Op ε α} {J : List β → α → σ → Prop}
    (hJ : ∀ b l a s, J (b :: l) a s → (f a b).wp E I (J l) X s) {l : List β} {a : α} (h : J l a s)
    (hI : ∀ a s, J [] a s → I s) : (l.foldlM f a).wp E I (J []) X s := by
  induction l generalizing a s
  case nil         => exact ⟨hI a s h, h⟩
  case cons b l ih => exact bind <| (hJ b l a s h).mono (fun _ _ _ h => ih h) (fun _ _ _ h => h)

-- A program is correct for what it is able to return.
theorem ofReturns {p : Program Op ε α} (h : ∀ a s', Returns E s p s' a → Q a s') :
    p.wp E (fun _ => True) Q (fun _ _ => True) s := by
  induction p generalizing s
  case pure a       => exact ⟨trivial, h a s (.refl _ _)⟩
  case throw e      => exact ⟨trivial, trivial⟩
  case call op k ih => exact ⟨trivial, fun r s' he => ih r fun a s'' hr => h a s'' (.call he hr)⟩

-- Where nothing is asked of the first part, the second one has to be correct after anything.
theorem afterAny {p : Program Op ε α} {f : α → Program Op ε β} {Q : β → σ → Prop}
    (h : ∀ a s, (f a).wp E (fun _ => True) Q (fun _ _ => True) s) :
    (p >>= f).wp E (fun _ => True) Q (fun _ _ => True) s :=
  bind <| (ofReturns fun _ _ _ => trivial).mono (fun a s _ _ => h a s) (fun _ _ _ h => h)

-- A program stays correct where its calls are made on a state that contains its own one.
theorem lift {Op' : Type → Type} {τ : Type} {f : ∀ {β : Type}, Op β → Op' β} {E' : Env Op' ε τ}
    {I' : τ → Prop} {R : τ → σ → Prop}
    (hR : ∀ {β} {op : Op β} {t s r t'}, R t s → E' β (f op) t r t' →
      ∃ s', E β op s r s' ∧ R t' s')
    (hI : ∀ t s, R t s → I s → I' t) {p : Program Op ε α} {t : τ} (ht : R t s)
    (h : p.wp E I Q X s) :
    (p.lift f).wp E' I' (fun a t => ∃ s, R t s ∧ Q a s) (fun e t => ∃ s, R t s ∧ X e s) t := by
  induction p generalizing s t
  case pure | throw => exact ⟨hI t s ht h.1, s, ht, h.2⟩
  case call op k ih =>
    refine ⟨hI t s ht h.1, fun r t' he => ?_⟩
    have ⟨s', he', ht'⟩ := hR ht he
    exact ih r ht' (h.2 r s' he')

-- What no call of a program touches holds after it as it did before.
theorem frame {A : ∀ β, Op β → Prop} {F : σ → Prop}
    (hF : ∀ {β} {op : Op β} {s r s'}, A β op → E β op s r s' → F s → F s') (hFI : ∀ s, F s → I s)
    {p : Program Op ε α} (hu : Uses A p) (h : F s) :
    p.wp E I (fun _ s => F s) (fun _ s => F s) s := by
  induction hu generalizing s
  case pure | throw  => exact ⟨hFI s h, h⟩
  case call hA _ ih => exact ⟨hFI s h, fun r s' he => ih r (hF hA he h)⟩

end wp
end Interaction.Program
