import ReceivingApp.Lib.Program
import Mathlib.Data.Set.Basic

namespace Interaction.Program

variable {Op Op' : Type → Type} {ε α β γ σ κ : Type}

-- ### Disciplines

-- What programs that share a state expect of each other. A call has to be allowed by the facts that
-- its program knows at that time, and its answer teaches the program more of them.
structure Discipline (Op : Type → Type) (ε κ : Type) where
  allows  : ∀ β, Op β → Set κ → Prop
  teaches : ∀ β, Op β → Except ε β → Set κ
  mono    : ∀ {β} {op : Op β} {F F' : Set κ}, F ⊆ F' → allows β op F → allows β op F'

namespace Discipline

-- A program that knows the given facts has each of its calls allowed. It is alone with what its own
-- calls teach it, and the answers are up to the others.
def Follows (D : Discipline Op ε κ) : Program Op ε α → Set κ → Prop
  | .pure _, _     => True
  | .throw _, _    => True
  | .call op k, F  => D.allows _ op F ∧ ∀ r, D.Follows (k r) (F ∪ D.teaches _ op r)

-- The same expectations of calls of another kind.
def comap (f : ∀ {β : Type}, Op β → Op' β) (D : Discipline Op' ε κ) : Discipline Op ε κ where
  allows β op F  := D.allows β (f op) F
  teaches β op r := D.teaches β (f op) r
  mono hF h      := D.mono hF h

-- The facts are about the state: what is allowed leaves them true, and answers tell the truth,
-- where `I` holds of the state.
structure Sound (D : Discipline Op ε κ) (E : Env Op ε σ) (I : σ → Prop) (holds : κ → σ → Prop) :
    Prop where
  kept   : ∀ {β} {op : Op β} {s r s'},
    E β op s r s' → D.allows β op {f | holds f s} → I s → I s'
  stable : ∀ {β} {op : Op β} {s r s' f},
    E β op s r s' → D.allows β op {f | holds f s} → I s → holds f s → holds f s'
  taught : ∀ {β} {op : Op β} {s r s' f},
    E β op s r s' → D.allows β op {f | holds f s} → I s → f ∈ D.teaches β op r → holds f s'

variable {D : Discipline Op ε κ} {F F' : Set κ}

namespace Follows

-- ### Rules

-- Who knows more may do more.
theorem mono {p : Program Op ε α} (h : D.Follows p F) (hF : F ⊆ F') : D.Follows p F' := by
  induction p generalizing F F'
  case pure | throw => trivial
  case call op k ih =>
    exact ⟨D.mono hF h.1, fun r => ih r (h.2 r) (Set.union_subset_union_left _ hF)⟩

theorem ofExcept (x : Except ε α) : D.Follows (ofExcept x : Program Op ε α) F := by
  cases x <;> trivial

theorem perform {op : Op α} (h : D.allows α op F) :
    D.Follows (Program.perform op : Program Op ε α) F :=
  ⟨h, fun r => .ofExcept r⟩

-- What the first part of a program does not need to know is still known in the second one.
theorem bind {p : Program Op ε α} {f : α → Program Op ε β} (hp : D.Follows p F)
    (hf : ∀ a, D.Follows (f a) F) : D.Follows (p >>= f) F := by
  induction p generalizing F
  case pure a  => exact hf a
  case throw   => trivial
  case call op k ih =>
    exact ⟨hp.1, fun r => ih r (hp.2 r) fun a => (hf a).mono Set.subset_union_left⟩

theorem performBind {op : Op β} {f : β → Program Op ε α} (h : D.allows β op F)
    (hf : ∀ b, D.Follows (f b) (F ∪ D.teaches β op (.ok b))) :
    D.Follows (Program.perform op >>= f) F := by
  refine ⟨h, fun r => ?_⟩
  cases r
  case ok b    => exact hf b
  case error e => trivial

theorem tryCatch {p : Program Op ε α} {h : ε → Program Op ε α} (hp : D.Follows p F)
    (hh : ∀ e, D.Follows (h e) F) : D.Follows (p.tryCatch h) F := by
  induction p generalizing F
  case pure    => trivial
  case throw e => exact hh e
  case call op k ih =>
    exact ⟨hp.1, fun r => ih r (hp.2 r) fun e => (hh e).mono Set.subset_union_left⟩

theorem withFinally {p : Program Op ε α} {cleanup : Program Op ε Unit} (hp : D.Follows p F)
    (hc : D.Follows cleanup F) : D.Follows (p.withFinally cleanup) F := by
  induction p generalizing F
  case pure | throw => exact hc.bind fun _ => trivial
  case call op k ih => exact ⟨hp.1, fun r => ih r (hp.2 r) (hc.mono Set.subset_union_left)⟩

theorem foldlM {f : α → β → Program Op ε α} {l : List β}
    (hf : ∀ a, ∀ b ∈ l, D.Follows (f a b) F) (a : α) : D.Follows (l.foldlM f a) F := by
  induction l generalizing a
  case nil => trivial
  case cons b l ih =>
    exact (hf a b List.mem_cons_self).bind
      (ih fun a b hb => hf a b (List.mem_cons_of_mem _ hb))

theorem lift {f : ∀ {β : Type}, Op β → Op' β} {D : Discipline Op' ε κ} {p : Program Op ε α}
    (h : (D.comap f).Follows p F) : D.Follows (p.lift f) F := by
  induction p generalizing F
  case pure | throw => trivial
  case call op k ih => exact ⟨h.1, fun r => ih r (h.2 r)⟩

end Follows

-- ### Programs in a pool

-- Where all programs follow the discipline, they do so in every interleaving.
theorem Sound.steps {ι : Type} [DecidableEq ι] {E : Env Op ε σ} {I : σ → Prop}
    {holds : κ → σ → Prop} (hD : D.Sound E I holds)
    {c c' : σ × (ι → Program Op ε α)} (hs : Pool.Steps E c c') (hI : I c.1)
    (hP : ∀ i, D.Follows (c.2 i) {f | holds f c.1}) :
    I c'.1 ∧ ∀ i, D.Follows (c'.2 i) {f | holds f c'.1} := by
  refine hs.invariant (I := fun c => I c.1 ∧ ∀ i, D.Follows (c.2 i) {f | holds f c.1}) ?_ ⟨hI, hP⟩
  rintro _ _ ⟨i, hi, he⟩ ⟨hI, hP⟩
  rename_i s s' P β op k r
  have ⟨ha, hk⟩ : D.Follows (.call op k) {f | holds f s} := hi ▸ hP i
  have hstable {f : κ} (h : holds f s) : holds f s' := hD.stable he ha hI h
  refine ⟨hD.kept he ha hI, fun j => ?_⟩
  by_cases hj : j = i
  case pos =>
    subst hj
    simp only [Function.update_self]
    exact (hk r).mono (Set.union_subset (fun _ => hstable) (fun _ => hD.taught he ha hI))
  case neg =>
    simp only [Function.update_of_ne hj]
    exact (hP j).mono fun _ => hstable

end Discipline
end Interaction.Program
