import ReceivingApp.Lib.Hoare
import ReceivingApp.Lib.Knowledge

namespace Interaction.Program

variable {Op : Type → Type} {ε α β σ κ : Type} {E : Env Op ε σ} {s s' : σ}

-- ### What all programs of a pool have in common

-- The interleavings of programs that follow a discipline are those in which every call is allowed.
theorem Discipline.Sound.guarded {ι : Type} [DecidableEq ι] {D : Discipline Op ε κ} {I : σ → Prop}
    {holds : κ → σ → Prop} (hD : D.Sound E I holds) {c c' : σ × (ι → Program Op ε α)}
    (hs : Pool.Steps E c c') (hI : I c.1) (hP : ∀ i, D.Follows (c.2 i) {f | holds f c.1}) :
    Pool.Steps (Guarded E fun β op s => I s ∧ D.allows β op {f | holds f s}) c c' := by
  induction hs
  case refl => exact .refl
  case tail hs hstep ih =>
    have ⟨hI, hP⟩ := hD.steps hs hI hP
    obtain ⟨i, hi, he⟩ := hstep
    have hop := hP i
    simp only [hi] at hop
    exact ih.tail (.mk i hi ⟨he, hI, hop.1⟩)

-- ### The run of one program among others

-- The surroundings of a program that is not alone. Before each of its calls the others may have
-- changed the state, as far as `R` allows.
def Among (E : Env Op ε σ) (R : σ → σ → Prop) : Env Op ε σ :=
  fun β op s r s' => ∃ s₁, R s s₁ ∧ E β op s₁ r s'

-- A call is correct among others if it is so after whatever they do.
theorem wp.among {R : σ → σ → Prop} {I : σ → Prop} {Q : α → σ → Prop} {X : ε → σ → Prop}
    {op : Op α} (hI : I s)
    (h : ∀ s₁, R s s₁ → (Program.perform op : Program Op ε α).wp E I Q X s₁) :
    (Program.perform op : Program Op ε α).wp (Among E R) I Q X s := by
  refine ⟨hI, fun r s' ⟨s₁, hr, he⟩ => ?_⟩
  have hdone := (h s₁ hr).2 r s' he
  cases r
  case ok | error => exact hdone

-- What no call takes back, no run takes back.
theorem Steps.related {R : σ → σ → Prop} (hrefl : ∀ s, R s s)
    (htrans : ∀ {s₁ s₂ s₃}, R s₁ s₂ → R s₂ s₃ → R s₁ s₃)
    (hR : ∀ {β} {op : Op β} {s r s'}, E β op s r s' → R s s') {p q : Program Op ε α}
    (hs : Steps E s p s' q) : R s s' := by
  induction hs
  case refl          => exact hrefl _
  case call he _ ih => exact htrans (hR he) ih

theorem Steps.snoc {op : Op β} {k : Except ε β → Program Op ε α} {r : Except ε β} {s₁ : σ}
    {p : Program Op ε α} (hs : Steps E s p s₁ (.call op k)) (he : E β op s₁ r s') :
    Steps E s p s' (k r) := by
  generalize hq : Program.call op k = q at hs
  induction hs
  case refl         => exact hq ▸ .call he (.refl _ _)
  case call hc _ ih => exact .call hc (ih he hq)

section View

variable {ι : Type} [DecidableEq ι] {R : σ → σ → Prop} {P Q : ι → Program Op ε α}

-- In every interleaving each program has a run of its own, and all that it does not do itself is
-- what the others do between two of its calls.
theorem Pool.Steps.view (hrefl : ∀ s, R s s) (htrans : ∀ {s₁ s₂ s₃}, R s₁ s₂ → R s₂ s₃ → R s₁ s₃)
    (hR : ∀ {β} {op : Op β} {s r s'}, E β op s r s' → R s s') (hs : Pool.Steps E (s, P) (s', Q))
    (i : ι) : ∃ s₁, Program.Steps (Among E R) s (P i) s₁ (Q i) ∧ R s₁ s' := by
  generalize hc : (s', Q) = c at hs
  induction hs generalizing s' Q
  case refl =>
    cases hc
    exact ⟨s, .refl _ _, hrefl s⟩
  case tail hstep ih =>
    cases hc
    have ⟨j, hj, he⟩ := hstep
    have ⟨s₁, hs₁, hr⟩ := ih rfl
    by_cases hi : i = j
    case pos =>
      subst hi
      rw [hj] at hs₁
      exact ⟨s', by simpa only [Function.update_self] using hs₁.snoc ⟨_, hr, he⟩, hrefl s'⟩
    case neg =>
      exact ⟨s₁, by simpa only [Function.update_of_ne hi] using hs₁, htrans hr (hR he)⟩

-- Whoever has no turn stays as it is.
theorem Pool.play_of_notMem {h : Handler Op ε σ} {guard : ∀ β, Op β → σ → Bool} {is : List ι}
    {i : ι} (hp : Pool.play h guard is (s, P) = some (s', Q)) (hi : i ∉ is) : Q i = P i := by
  induction is generalizing s P
  case nil => cases hp; rfl
  case cons j is ih =>
    have ⟨hj, hi⟩ : i ≠ j ∧ i ∉ is := by simpa using hi
    simp only [Pool.play] at hp
    split at hp
    case h_1 =>
      split at hp
      case isTrue  => rw [ih hp hi, Function.update_of_ne hj]
      case isFalse => cases hp
    case h_2 => exact ih hp hi

end View
end Interaction.Program
